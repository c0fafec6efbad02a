import Automation.Action.Attempt
import Automation.Run.Engine

/-!
# Settings

What is configured if nothing is said: where the services around are, how long things may take, how
often they are tried, and how large a run may grow.
-/

namespace Automation

/-- The settings of a server. -/
structure Settings where
  projectName : String := "Workflow Automation Service"
  serviceName : String := "workflow-automation-service"
  apiRoot : String := "/api/v1"
  logLevel : String := "INFO"
  /-- The secret that signs tokens. -/
  tokenSecret : String
  tokenAlgorithm : String := "HS256"
  tokenIssuer : String := "http://localhost:9000/auth"
  crmAddress : String := "http://localhost:8010"
  calendarAddress : String := "http://localhost:8011"
  integrationsAddress : String := localIntegrations
  brokerHost : String := "localhost"
  brokerPort : Nat := 5672
  brokerUser : String := "guest"
  brokerPassword : String := "guest"
  exchange : String := "communications-exchange"
  flagStore : String := "redis://localhost:6379/0"
  /-- The seconds that an abort request is kept. -/
  abortSeconds : Int := 604800
  /-- The seconds that a plain request may take. -/
  httpSeconds : Float := 10.0
  /-- The seconds that an attempt at any other action may take. -/
  attemptSeconds : Float := 30.0
  retry : RetryPolicy := {}
  /-- The seconds from which on a pause suspends a run. -/
  suspendFrom : Float := 300.0
  maxSteps : Int := 10000
  maxDepth : Int := 100
  maxActiveSeconds : Float := 3600.0

/-- The places that actions must know. -/
def Settings.places (s : Settings) : Places := ⟨s.integrationsAddress⟩

/-- The settings that are no secrets, under the names that they have in the environment. -/
def Settings.environment (s : Settings) : Entries Value :=
  [("PROJECT_NAME", .text s.projectName), ("SERVICE_NAME", .text s.serviceName),
   ("API_V1_STR", .text s.apiRoot), ("LOG_LEVEL", .text s.logLevel),
   ("JWT_ALGORITHM", .text s.tokenAlgorithm), ("JWT_ISSUER", .text s.tokenIssuer),
   ("CRM_SERVICE_URL", .text s.crmAddress), ("CALENDAR_SERVICE_URL", .text s.calendarAddress),
   ("INTEGRATIONS_SERVICE_URL", .text s.integrationsAddress),
   ("RABBITMQ_HOST", .text s.brokerHost), ("RABBITMQ_PORT", .int s.brokerPort),
   ("RABBITMQ_USERNAME", .text s.brokerUser), ("RABBITMQ_PASSWORD", .text s.brokerPassword),
   ("RABBITMQ_EXCHANGE", .text s.exchange), ("REDIS_URL", .text s.flagStore),
   ("RUN_ABORT_TTL_SECONDS", .int s.abortSeconds),
   ("HTTP_ACTION_TIMEOUT_SECONDS", .float s.httpSeconds),
   ("EXECUTOR_TIMEOUT_SECONDS", .float s.attemptSeconds),
   ("EXECUTOR_MAX_ATTEMPTS", .int s.retry.maxAttempts),
   ("EXECUTOR_BACKOFF_MULTIPLIER", .float s.retry.multiplier),
   ("EXECUTOR_BACKOFF_MAX_SECONDS", .float s.retry.maxWait),
   ("DELAY_OFFLOAD_THRESHOLD_SECONDS", .float s.suspendFrom),
   ("WORKFLOW_MAX_STEPS", .int s.maxSteps), ("WORKFLOW_MAX_NESTING_DEPTH", .int s.maxDepth),
   ("WORKFLOW_RUN_MAX_SECONDS", .float s.maxActiveSeconds)]

end Automation
