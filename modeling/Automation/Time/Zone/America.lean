import Automation.Time.Zone.Basic

/-!
# Time zones: America

Zones with the same history since 1970 share a row.
-/

namespace Automation.Time.Zone

/-- The rows of America. -/
def americaRows : List Row := [
  ⟨["America/Adak", "America/Atka"], -39600,
    ["797c-40 b8co-44 b8jc-40 bnwo-44 b8jc-40 b8co-44 b8jc-40 b8co-44 4bnc-40 i58o-44 7cjc-40",
     "f4co-44 b8jc-40 bnwo-44 aszc-40 bnwo-44 b8jc-40 b8co-44 b8jc-40 b8co-44 b8jc-40 b8co-44",
     "b8jc-40 b8co-44 b8jc-40 bnwo-44 aszc-40 mwco-36 b8co-40 b8jc-36 b8co-40 b8jc-36 b8co-40",
     "9xvc-36 cj0o-40 9xvc-36 cyko-40 9ibc-36 cyko-40 9ibc-36 cyko-40 9xvc-36 cj0o-40 9xvc-36",
     "cj0o-40 9xvc-36 cyko-40 9ibc-36 cyko-40 9ibc-36 cyko-40 9xvc-36 cj0o-40 9xvc-36 cj0o-40",
     "9xvc-36 cj0o-40 9xvc-36 cyko-40 9ibc-36 cyko-40 9ibc-36 cyko-40 9xvc-36 cj0o-40 9xvc-36",
     "cj0o-40 9xvc-36 cyko-40 9ibc-36 cyko-40 9ibc-36 cyko-40 87nc-36"],
    some ⟨-36000, -32400, ⟨3, 2, 0, 7200⟩, ⟨11, 1, 0, 7200⟩⟩⟩,
  ⟨["America/Anchorage"], -36000,
    ["7940-36 b8co-40 b8jc-36 bnwo-40 b8jc-36 b8co-40 b8jc-36 b8co-40 4bnc-36 i58o-40 7cjc-36",
     "f4co-40 b8jc-36 bnwo-40 aszc-36 bnwo-40 b8jc-36 b8co-40 b8jc-36 b8co-40 b8jc-36 b8co-40",
     "b8jc-36 b8co-40 b8jc-36 bnwo-40 aszc-36 mwco-32 b8co-36 b8jc-32 b8co-36 b8jc-32 b8co-36",
     "9xvc-32 cj0o-36 9xvc-32 cyko-36 9ibc-32 cyko-36 9ibc-32 cyko-36 9xvc-32 cj0o-36 9xvc-32",
     "cj0o-36 9xvc-32 cyko-36 9ibc-32 cyko-36 9ibc-32 cyko-36 9xvc-32 cj0o-36 9xvc-32 cj0o-36",
     "9xvc-32 cj0o-36 9xvc-32 cyko-36 9ibc-32 cyko-36 9ibc-32 cyko-36 9xvc-32 cj0o-36 9xvc-32",
     "cj0o-36 9xvc-32 cyko-36 9ibc-32 cyko-36 9ibc-32 cyko-36 87nc-32"],
    some ⟨-32400, -28800, ⟨3, 2, 0, 7200⟩, ⟨11, 1, 0, 7200⟩⟩⟩,
  ⟨["America/Anguilla", "America/Antigua", "America/Aruba", "America/Blanc-Sablon",
    "America/Curacao", "America/Dominica", "America/Grenada", "America/Guadeloupe",
    "America/Kralendijk", "America/La_Paz", "America/Lower_Princes", "America/Marigot",
    "America/Montserrat", "America/Port_of_Spain", "America/Puerto_Rico", "America/St_Barthelemy",
    "America/St_Kitts", "America/St_Lucia", "America/St_Thomas", "America/St_Vincent",
    "America/Tortola", "America/Virgin", "Etc/GMT+4"], -14400, [], none⟩,
  ⟨["America/Araguaina"], -10800,
    ["9x620-8 87go-12 dtvc-8 6wso-12 fmbc-8 6h8o-12 fk3c-8 6h8o-12 fznc-8 7cco-12 3jwjc-8 7cco-12",
     "eozc-8 87go-12 ebnc-8 90co-12 dtvc-8 87go-12 dtvc-8 92ko-12 dtvc-8 87go-12 eozc-8 7rwo-12",
     "fznc-8 6h8o-12 627nc-8 7cco-12"], none⟩,
  ⟨["America/Argentina/Buenos_Aires"], -10800,
    ["2joa0-8 61oo-12 94w3c-8 5sso-12 dtvc-8 8n0o-12 e9fc-8 87go-12 e9fc-8 87go-12 e9fc-8 8n0o-12",
     "9a0jc-8 4r0o-12 debc-8 92ko-12"], none⟩,
  ⟨["America/Argentina/Catamarca"], -10800,
    ["2joa0-8 61oo-12 94w3c-8 5sso-12 dtvc-8 8n0o-12 e9fc-8 87go-16 e9io-8 87dc-12 e9fc-8 8n0o-12",
     "71c3c-16 16bc-12 27i4o-8 4r0o-12"], none⟩,
  ⟨["America/Argentina/Cordoba"], -10800,
    ["2joa0-8 61oo-12 94w3c-8 5sso-12 dtvc-8 8n0o-12 e9fc-8 87go-16 e9io-8 87dc-12 e9fc-8 8n0o-12",
     "9a0jc-8 4r0o-12 debc-8 92ko-12"], none⟩,
  ⟨["America/Argentina/Jujuy"], -10800,
    ["2joa0-8 61oo-12 94w3c-8 5sso-12 dtvc-8 8n0o-16 ep2o-12 8n0o-16 cj7c-8 92hc-12 e9fc-8",
     "8n0o-12 9a0jc-8 4r0o-12"], none⟩,
  ⟨["America/Argentina/La_Rioja"], -10800,
    ["2joa0-8 61oo-12 94w3c-8 5sso-12 dtvc-8 8n0o-12 e9fc-8 830o-16 452o-12 a8so-8 87go-12 e9fc-8",
     "8n0o-12 71c3c-16 16bc-12 27i4o-8 4r0o-12"], none⟩,
  ⟨["America/Argentina/Mendoza"], -10800,
    ["2joa0-8 61oo-12 94w3c-8 5sso-12 dtvc-8 8n0o-16 dw6o-12 8gco-16 e2rc-12 8iko-16 e9fc-8",
     "8mxc-12 70s3c-16 7s3c-12 21gco-8 4r0o-12"], none⟩,
  ⟨["America/Argentina/Rio_Gallegos"], -10800,
    ["2joa0-8 61oo-12 94w3c-8 5sso-12 dtvc-8 8n0o-12 e9fc-8 87go-12 e9fc-8 87go-12 e9fc-8 8n0o-12",
     "71c3c-16 16bc-12 27i4o-8 4r0o-12"], none⟩,
  ⟨["America/Argentina/Salta"], -10800,
    ["2joa0-8 61oo-12 94w3c-8 5sso-12 dtvc-8 8n0o-12 e9fc-8 87go-16 e9io-8 87dc-12 e9fc-8 8n0o-12",
     "9a0jc-8 4r0o-12"], none⟩,
  ⟨["America/Argentina/San_Juan"], -10800,
    ["2joa0-8 61oo-12 94w3c-8 5sso-12 dtvc-8 8n0o-12 e9fc-8 830o-16 452o-12 a8so-8 87go-12 e9fc-8",
     "8n0o-12 719vc-16 3ebc-12 25cco-8 4r0o-12"], none⟩,
  ⟨["America/Argentina/San_Luis"], -10800,
    ["2joa0-8 61oo-12 94w3c-8 5sso-12 dtvc-8 998o-16 d9yo-12 8gco-16 5ojc-12 8530o-16 3ebc-12",
     "25cco-8 1cso-12 2yrc-16 debc-12 92ko-16 debc-12"], none⟩,
  ⟨["America/Argentina/Tucuman"], -10800,
    ["2joa0-8 61oo-12 94w3c-8 5sso-12 dtvc-8 8n0o-12 e9fc-8 87go-16 e9io-8 87dc-12 e9fc-8 8n0o-12",
     "71c3c-16 qrc-12 27xoo-8 4r0o-12 debc-8 92ko-12"], none⟩,
  ⟨["America/Argentina/Ushuaia"], -10800,
    ["2joa0-8 61oo-12 94w3c-8 5sso-12 dtvc-8 8n0o-12 e9fc-8 87go-12 e9fc-8 87go-12 e9fc-8 8n0o-12",
     "717nc-16 1arc-12 27i4o-8 4r0o-12"], none⟩,
  ⟨["America/Asuncion"], -14400,
    ["1q3xc-12 xrgo-16 xtvc-12 9doo-16 d7nc-12 9bgo-16 d7nc-12 9bgo-16 d7nc-12 b8co-16 barc-12",
     "bako-16 barc-12 b8co-16 barc-12 b8co-16 barc-12 b8co-16 barc-12 bako-16 barc-12 b8co-16",
     "barc-12 b8co-16 barc-12 b8co-16 barc-12 bako-16 barc-12 b8co-16 clfc-12 9xoo-16 barc-12",
     "b8co-16 blvc-12 92ko-16 dgjc-12 ax8o-16 bczc-12 970o-16 dc3c-12 94so-16 debc-12 9doo-16",
     "dirc-12 8n0o-16 dtvc-12 92ko-16 debc-12 9i4o-16 cyrc-12 9i4o-16 cyrc-12 9i4o-16 debc-12",
     "b8co-16 92rc-12 de4o-16 9ibc-12 cyko-16 c3nc-12 92ko-16 debc-12 92ko-16 debc-12 92ko-16",
     "dtvc-12 8n0o-16 dtvc-12 8n0o-16 dtvc-12 asso-16 aszc-12 bnwo-16 aszc-12 bnwo-16 b8jc-12",
     "ad8o-16 c3nc-12 ad8o-16 c3nc-12 ad8o-16 c3nc-12 asso-16 bo3c-12 asso-16 bo3c-12 asso-16",
     "c3nc-12 ad8o-16 c3nc-12 ad8o-16 c3nc-12 asso-16 bo3c-12 asso-16 bo3c-12 asso-16 bo3c-12",
     "asso-16 c3nc-12"], none⟩,
  ⟨["America/Atikokan", "America/Cayman", "America/Coral_Harbour", "America/Panama", "EST",
    "Etc/GMT+5"], -18000, [], none⟩,
  ⟨["America/Bahia"], -10800,
    ["9x620-8 87go-12 dtvc-8 6wso-12 fmbc-8 6h8o-12 fk3c-8 6h8o-12 fznc-8 7cco-12 fk3c-8 7cco-12",
     "f4jc-8 6wso-12 fznc-8 61oo-12 fznc-8 7rwo-12 eozc-8 7rwo-12 eozc-8 7cco-12 eozc-8 87go-12",
     "ebnc-8 90co-12 dtvc-8 87go-12 dtvc-8 92ko-12 dtvc-8 87go-12 eozc-8 7rwo-12 fznc-8 6h8o-12",
     "5fb7c-8 87go-12"], none⟩,
  ⟨["America/Bahia_Banderas"], -25200,
    ["ggb20-24 cj0o-28 9xvc-24 cj0o-28 9xvc-24 cj0o-28 9xvc-24 cyko-28 9ibc-24 cyko-28 bo3c-24",
     "92ko-28 bo3c-24 cj0o-28 9xvc-24 cj0o-28 9xvc-24 cyko-28 9ibc-24 cyko-28 9ibc-24 cyko-28",
     "9ibc-24 cyko-28 9xvc-24 cj0o-28 9xvc-24 cj0o-28 9xvc-20 cyhc-24 9ibc-20 cyko-24 9ibc-20",
     "cyko-24 9xvc-20 cj0o-24 9xvc-20 cj0o-24 9xvc-20 cj0o-24 9xvc-20 cyko-24 9ibc-20 cyko-24",
     "9ibc-20 cyko-24 9xvc-20 cj0o-24 9xvc-20 cj0o-24 9xvc-20 cyko-24 9ibc-20 cyko-24"], none⟩,
  ⟨["America/Barbados"], -14400,
    ["4nz80-12 6wso-16 c3nc-12 ad8o-16 c3nc-12 ad8o-16 cj7c-12 9r0o-16"], none⟩,
  ⟨["America/Belem"], -10800,
    ["9x620-8 87go-12 dtvc-8 6wso-12 fmbc-8 6h8o-12"], none⟩,
  ⟨["America/Belize"], -21600,
    ["2gno0-20 42ko-24 5jmrc-20 3gco-24"], none⟩,
  ⟨["America/Boa_Vista"], -14400,
    ["9x65c-12 87go-16 dtvc-12 6wso-16 fmbc-12 6h8o-16 7apvc-12 92ko-16 dtvc-12 fgo-16"], none⟩,
  ⟨["America/Bogota"], -18000,
    ["dzpso-16 ha4o-20"], none⟩,
  ⟨["America/Boise"], -25200,
    ["78u0-24 b8co-28 b8jc-24 bnwo-28 b8jc-24 b8co-28 b8jc-24 b8co-28 61vc-24 gf0o-28 7cjc-24",
     "f4co-28 b8jc-24 bnwo-28 aszc-24 bnwo-28 b8jc-24 b8co-28 b8jc-24 b8co-28 b8jc-24 b8co-28",
     "b8jc-24 b8co-28 b8jc-24 bnwo-28 aszc-24 bnwo-28 b8jc-24 b8co-28 b8jc-24 b8co-28 b8jc-24",
     "b8co-28 9xvc-24 cj0o-28 9xvc-24 cyko-28 9ibc-24 cyko-28 9ibc-24 cyko-28 9xvc-24 cj0o-28",
     "9xvc-24 cj0o-28 9xvc-24 cyko-28 9ibc-24 cyko-28 9ibc-24 cyko-28 9xvc-24 cj0o-28 9xvc-24",
     "cj0o-28 9xvc-24 cj0o-28 9xvc-24 cyko-28 9ibc-24 cyko-28 9ibc-24 cyko-28 9xvc-24 cj0o-28",
     "9xvc-24 cj0o-28 9xvc-24 cyko-28 9ibc-24 cyko-28 9ibc-24 cyko-28 87nc-24"],
    some ⟨-25200, -21600, ⟨3, 2, 0, 7200⟩, ⟨11, 1, 0, 7200⟩⟩⟩,
  ⟨["America/Cambridge_Bay"], -25200,
    ["1gm60-24 b8co-28 b8jc-24 b8co-28 b8jc-24 b8co-28 b8jc-24 b8co-28 b8jc-24 bnwo-28 aszc-24",
     "bnwo-28 b8jc-24 b8co-28 b8jc-24 b8co-28 b8jc-24 b8co-28 b8jc-24 b8co-28 b8jc-24 bnwo-28",
     "aszc-24 bnwo-28 b8jc-24 b8co-28 b8jc-24 b8co-28 b8jc-24 b8co-28 9xvc-24 cj0o-28 9xvc-24",
     "cyko-28 9ibc-24 cyko-28 9ibc-24 cyko-28 9xvc-24 cj0o-28 9xvc-24 cj0o-28 9xvc-24 cyko-28",
     "9ibc-24 cyko-28 9ibc-24 cyko-28 9xvc-24 cj0o-28 9xvc-24 cj0o-28 9xvc-24 cj0o-28 9xvc-24",
     "mgso-20 ddy0-24 m1m0-28 9xvc-24 cj0o-28 9xvc-24 cj0o-28 9xvc-24 cyko-28 9ibc-24 cyko-28",
     "9ibc-24 cyko-28 87nc-24"],
    some ⟨-25200, -21600, ⟨3, 2, 0, 7200⟩, ⟨11, 1, 0, 7200⟩⟩⟩,
  ⟨["America/Campo_Grande"], -14400,
    ["9x65c-12 87go-16 dtvc-12 6wso-16 fmbc-12 6h8o-16 fk3c-12 6h8o-16 fznc-12 7cco-16 fk3c-12",
     "7cco-16 f4jc-12 6wso-16 fznc-12 61oo-16 fznc-12 7rwo-16 eozc-12 7rwo-16 eozc-12 7cco-16",
     "eozc-12 87go-16 ebnc-12 90co-16 dtvc-12 87go-16 dtvc-12 92ko-16 dtvc-12 87go-16 eozc-12",
     "7rwo-16 fznc-12 6h8o-16 f4jc-12 7cco-16 g43c-12 6sco-16 eozc-12 7rwo-16 fznc-12 6wso-16",
     "e9fc-12 7rwo-16 f4jc-12 7cco-16 f4jc-12 7rwo-16 eozc-12 7rwo-16 eozc-12 87go-16 eozc-12",
     "7cco-16 f4jc-12 7cco-16 f4jc-12 7rwo-16 eozc-12 7rwo-16 eozc-12 7rwo-16 eozc-12 7rwo-16",
     "fznc-12 6h8o-16"], none⟩,
  ⟨["America/Cancun"], -21600,
    ["7ibuo-20 n2u0-24 8awa0-20 cj0o-24 9xvc-20 mgso-16 7cco-20 56rc-24 9xvc-20 cyko-24 9ibc-20",
     "cyko-24 bo3c-20 92ko-24 bo3c-20 cj0o-24 9xvc-20 cj0o-24 9xvc-20 cyko-24 9ibc-20 cyko-24",
     "9ibc-20 cyko-24 9ibc-20 cyko-24 9xvc-20 cj0o-24 9xvc-20 cj0o-24 9xvc-20 cyko-24 9ibc-20",
     "cyko-24 9ibc-20 cyko-24 9xvc-20 cj0o-24 9xvc-20 cj0o-24 61vc-20"], none⟩,
  ⟨["America/Caracas"], -14400,
    ["nrg7c-18 599c0-16"], none⟩,
  ⟨["America/Cayenne", "Etc/GMT+3"], -10800, [], none⟩,
  ⟨["America/Chicago", "CST6CDT"], -21600,
    ["78qo-20 b8co-24 b8jc-20 bnwo-24 b8jc-20 b8co-24 b8jc-20 b8co-24 4bnc-20 i58o-24 7cjc-20",
     "f4co-24 b8jc-20 bnwo-24 aszc-20 bnwo-24 b8jc-20 b8co-24 b8jc-20 b8co-24 b8jc-20 b8co-24",
     "b8jc-20 b8co-24 b8jc-20 bnwo-24 aszc-20 bnwo-24 b8jc-20 b8co-24 b8jc-20 b8co-24 b8jc-20",
     "b8co-24 9xvc-20 cj0o-24 9xvc-20 cyko-24 9ibc-20 cyko-24 9ibc-20 cyko-24 9xvc-20 cj0o-24",
     "9xvc-20 cj0o-24 9xvc-20 cyko-24 9ibc-20 cyko-24 9ibc-20 cyko-24 9xvc-20 cj0o-24 9xvc-20",
     "cj0o-24 9xvc-20 cj0o-24 9xvc-20 cyko-24 9ibc-20 cyko-24 9ibc-20 cyko-24 9xvc-20 cj0o-24",
     "9xvc-20 cj0o-24 9xvc-20 cyko-24 9ibc-20 cyko-24 9ibc-20 cyko-24 87nc-20"],
    some ⟨-21600, -18000, ⟨3, 2, 0, 7200⟩, ⟨11, 1, 0, 7200⟩⟩⟩,
  ⟨["America/Chihuahua"], -21600,
    ["ggayo-20 cj0o-24 9xvc-20 cj0o-24 mgzc-28 9xvc-24 cyko-28 9ibc-24 cyko-28 bo3c-24 92ko-28",
     "bo3c-24 cj0o-28 9xvc-24 cj0o-28 9xvc-24 cyko-28 9ibc-24 cyko-28 9ibc-24 cyko-28 9ibc-24",
     "cyko-28 9xvc-24 cj0o-28 9xvc-24 cj0o-28 9xvc-24 cyko-28 9ibc-24 cyko-28 9ibc-24 cyko-28",
     "9xvc-24 cj0o-28 9xvc-24 cj0o-28 9xvc-24 cj0o-28 9xvc-24 cyko-28 9ibc-24 cyko-28 9ibc-24",
     "cyko-28 9xvc-24 cj0o-28 9xvc-24 cj0o-28 9xvc-24 cyko-28 9ibc-24"], none⟩,
  ⟨["America/Ciudad_Juarez"], -21600,
    ["ggayo-20 cj0o-24 9xvc-20 cj0o-24 mgzc-28 9xvc-24 cyko-28 9ibc-24 cyko-28 bo3c-24 92ko-28",
     "bo3c-24 cj0o-28 9xvc-24 cj0o-28 9xvc-24 cyko-28 9ibc-24 cyko-28 9ibc-24 cyko-28 9ibc-24",
     "cyko-28 9xvc-24 cj0o-28 9xvc-24 cj0o-28 8n7c-24 eoso-28 7s3c-24 eoso-28 7s3c-24 eoso-28",
     "7s3c-24 eoso-28 7s3c-24 eoso-28 7s3c-24 eoso-28 87nc-24 eoso-28 7s3c-24 eoso-28 7s3c-24",
     "eoso-28 7s3c-24 eoso-28 7s3c-24 eoso-28 87nc-24 eoso-28 7s3c-24 g5y0-28 6ay0-24"],
    some ⟨-25200, -21600, ⟨3, 2, 0, 7200⟩, ⟨11, 1, 0, 7200⟩⟩⟩,
  ⟨["America/Costa_Rica"], -21600,
    ["5qfo0-20 61oo-24 gf7c-20 61oo-24 6nr7c-20 a24o-24 cerc-20 3iko-24"], none⟩,
  ⟨["America/Coyhaique"], -10800,
    ["5i20-16 c3nc-12 9i4o-16 cyrc-12 9i4o-16 debc-12 92ko-16 cj7c-12 9xoo-16 debc-12 92ko-16",
     "debc-12 9i4o-16 cyrc-12 9i4o-16 cyrc-12 9i4o-16 debc-12 92ko-16 debc-12 92ko-16 debc-12",
     "9i4o-16 cyrc-12 9i4o-16 cyrc-12 9i4o-16 cyrc-12 9i4o-16 debc-12 92ko-16 debc-12 92ko-16",
     "debc-12 b8co-16 b8jc-12 9i4o-16 cyrc-12 9i4o-16 debc-12 92ko-16 bo3c-12 asso-16 debc-12",
     "9i4o-16 cyrc-12 9i4o-16 cyrc-12 9i4o-16 cyrc-12 9i4o-16 debc-12 92ko-16 debc-12 ad8o-16",
     "c3nc-12 9i4o-16 c3nc-12 bnwo-16 bo3c-12 9i4o-16 debc-12 92ko-16 debc-12 92ko-16 debc-12",
     "92ko-16 debc-12 9i4o-16 cyrc-12 9i4o-16 cyrc-12 9i4o-16 debc-12 92ko-16 debc-12 ad8o-16",
     "c3nc-12 9i4o-16 cyrc-12 asso-16 bo3c-12 cyko-16 6hfc-12 fjwo-16 7s3c-12 eoso-16 87nc-12",
     "e98o-16 87nc-12 120so-16 5mbc-12 guko-16 5mbc-12 guko-16 5mbc-12 eoso-16 9ibc-12 cyko-16",
     "9ibc-12 cyko-16 9ibc-12 cyko-16 9xvc-12 cj0o-16 9ibc-12 de4o-16 9ibc-12"], none⟩,
  ⟨["America/Creston", "America/Phoenix", "Etc/GMT+7", "MST"], -25200, [], none⟩,
  ⟨["America/Cuiaba"], -14400,
    ["9x65c-12 87go-16 dtvc-12 6wso-16 fmbc-12 6h8o-16 fk3c-12 6h8o-16 fznc-12 7cco-16 fk3c-12",
     "7cco-16 f4jc-12 6wso-16 fznc-12 61oo-16 fznc-12 7rwo-16 eozc-12 7rwo-16 eozc-12 7cco-16",
     "eozc-12 87go-16 ebnc-12 90co-16 dtvc-12 87go-16 dtvc-12 92ko-16 dtvc-12 87go-16 eozc-12",
     "7rwo-16 fznc-12 6h8o-16 12kzc-12 6sco-16 eozc-12 7rwo-16 fznc-12 6wso-16 e9fc-12 7rwo-16",
     "f4jc-12 7cco-16 f4jc-12 7rwo-16 eozc-12 7rwo-16 eozc-12 87go-16 eozc-12 7cco-16 f4jc-12",
     "7cco-16 f4jc-12 7rwo-16 eozc-12 7rwo-16 eozc-12 7rwo-16 eozc-12 7rwo-16 fznc-12 6h8o-16"],
    none⟩,
  ⟨["America/Danmarkshavn"], -10800,
    ["6fhso-8 asio-12 b8g0-8 b8g0-12 b8g0-8 b8g0-12 b8g0-8 b8g0-12 b8g0-8 bo00-12 b8g0-8 b8g0-12",
     "b8g0-8 b8g0-12 b8g0-8 b8g0-12 b8g0-8 b8g0-12 b8g0-8 b8g0-12 b8g0-8 bo00-12 b8g0-8 b8g0-12",
     "b8g0-8 b8g0-12 b8g0-8 b8g0-12 b8g0-8 b8g0-12 b8g0-8 b8g0-12 646o+0"], none⟩,
  ⟨["America/Dawson"], -32400,
    ["2ebi0-32 42hfc-28 b8co-32 b8jc-28 b8co-32 b8jc-28 bnwo-32 aszc-28 bnwo-32 b8jc-28 b8co-32",
     "b8jc-28 b8co-32 b8jc-28 b8co-32 9xvc-28 cj0o-32 9xvc-28 cyko-32 9ibc-28 cyko-32 9ibc-28",
     "cyko-32 9xvc-28 cj0o-32 9xvc-28 cj0o-32 9xvc-28 cyko-32 9ibc-28 cyko-32 9ibc-28 cyko-32",
     "9xvc-28 cj0o-32 9xvc-28 cj0o-32 9xvc-28 cj0o-32 9xvc-28 cyko-32 9ibc-28 cyko-32 9ibc-28",
     "cyko-32 9xvc-28 cj0o-32 9xvc-28 cj0o-32 9xvc-28 cyko-32 9ibc-28 cyko-32 9ibc-28 cyko-32",
     "87nc-28 eoso-32 7s3c-28 eoso-32 7s3c-28 eoso-32 87nc-28 eoso-32 7s3c-28 eoso-32 7s3c-28",
     "eoso-32 7s3c-28 eoso-32 7s3c-28 eoso-32 7s3c-28 eoso-32 87nc-28 eoso-32 7s3c-28 eoso-32",
     "7s3c-28 eoso-32 7s3c-28 eoso-32 7s3c-28"], none⟩,
  ⟨["America/Dawson_Creek"], -28800,
    ["78xc-28 b8co-32 b8jc-28 bnwo-32 b8jc-28"], none⟩,
  ⟨["America/Denver", "America/Shiprock", "MST7MDT"], -25200,
    ["78u0-24 b8co-28 b8jc-24 bnwo-28 b8jc-24 b8co-28 b8jc-24 b8co-28 4bnc-24 i58o-28 7cjc-24",
     "f4co-28 b8jc-24 bnwo-28 aszc-24 bnwo-28 b8jc-24 b8co-28 b8jc-24 b8co-28 b8jc-24 b8co-28",
     "b8jc-24 b8co-28 b8jc-24 bnwo-28 aszc-24 bnwo-28 b8jc-24 b8co-28 b8jc-24 b8co-28 b8jc-24",
     "b8co-28 9xvc-24 cj0o-28 9xvc-24 cyko-28 9ibc-24 cyko-28 9ibc-24 cyko-28 9xvc-24 cj0o-28",
     "9xvc-24 cj0o-28 9xvc-24 cyko-28 9ibc-24 cyko-28 9ibc-24 cyko-28 9xvc-24 cj0o-28 9xvc-24",
     "cj0o-28 9xvc-24 cj0o-28 9xvc-24 cyko-28 9ibc-24 cyko-28 9ibc-24 cyko-28 9xvc-24 cj0o-28",
     "9xvc-24 cj0o-28 9xvc-24 cyko-28 9ibc-24 cyko-28 9ibc-24 cyko-28 87nc-24"],
    some ⟨-25200, -21600, ⟨3, 2, 0, 7200⟩, ⟨11, 1, 0, 7200⟩⟩⟩,
  ⟨["America/Detroit"], -18000,
    ["232vc-16 b8co-20 4bnc-16 i58o-20 b8jc-16 b8co-20 b8jc-16 bnwo-20 aszc-16 bnwo-20 b8jc-16",
     "b8co-20 b8jc-16 b8co-20 b8jc-16 b8co-20 b8jc-16 b8co-20 b8jc-16 bnwo-20 aszc-16 bnwo-20",
     "b8jc-16 b8co-20 b8jc-16 b8co-20 b8jc-16 b8co-20 9xvc-16 cj0o-20 9xvc-16 cyko-20 9ibc-16",
     "cyko-20 9ibc-16 cyko-20 9xvc-16 cj0o-20 9xvc-16 cj0o-20 9xvc-16 cyko-20 9ibc-16 cyko-20",
     "9ibc-16 cyko-20 9xvc-16 cj0o-20 9xvc-16 cj0o-20 9xvc-16 cj0o-20 9xvc-16 cyko-20 9ibc-16",
     "cyko-20 9ibc-16 cyko-20 9xvc-16 cj0o-20 9xvc-16 cj0o-20 9xvc-16 cyko-20 9ibc-16 cyko-20",
     "9ibc-16 cyko-20 87nc-16"],
    some ⟨-18000, -14400, ⟨3, 2, 0, 7200⟩, ⟨11, 1, 0, 7200⟩⟩⟩,
  ⟨["America/Edmonton", "America/Yellowknife"], -25200,
    ["1gm60-24 b8co-28 b8jc-24 b8co-28 b8jc-24 b8co-28 b8jc-24 b8co-28 b8jc-24 bnwo-28 aszc-24",
     "bnwo-28 b8jc-24 b8co-28 b8jc-24 b8co-28 b8jc-24 b8co-28 b8jc-24 b8co-28 b8jc-24 bnwo-28",
     "aszc-24 bnwo-28 b8jc-24 b8co-28 b8jc-24 b8co-28 b8jc-24 b8co-28 9xvc-24 cj0o-28 9xvc-24",
     "cyko-28 9ibc-24 cyko-28 9ibc-24 cyko-28 9xvc-24 cj0o-28 9xvc-24 cj0o-28 9xvc-24 cyko-28",
     "9ibc-24 cyko-28 9ibc-24 cyko-28 9xvc-24 cj0o-28 9xvc-24 cj0o-28 9xvc-24 cj0o-28 9xvc-24",
     "cyko-28 9ibc-24 cyko-28 9ibc-24 cyko-28 9xvc-24 cj0o-28 9xvc-24 cj0o-28 9xvc-24 cyko-28",
     "9ibc-24 cyko-28 9ibc-24 cyko-28 87nc-24"],
    some ⟨-25200, -21600, ⟨3, 2, 0, 7200⟩, ⟨11, 1, 0, 7200⟩⟩⟩,
  ⟨["America/Eirunepe"], -18000,
    ["9x68o-16 87go-20 dtvc-16 6wso-20 fmbc-16 6h8o-20 3kc3c-16 7rwo-20 8zc3c-16 3dako-20"],
    none⟩,
  ⟨["America/El_Salvador"], -21600,
    ["auxw0-20 92ko-24 debc-20 92ko-24"], none⟩,
  ⟨["America/Ensenada", "America/Santa_Isabel", "America/Tijuana"], -28800,
    ["78xc-28 b8co-32 b8jc-28 bnwo-32 b8jc-28 b8co-32 b8jc-28 b8co-32 4bnc-28 i58o-32 7cjc-28",
     "f4co-32 b8jc-28 bnwo-32 aszc-28 bnwo-32 b8jc-28 b8co-32 b8jc-28 b8co-32 b8jc-28 b8co-32",
     "b8jc-28 b8co-32 b8jc-28 bnwo-32 aszc-28 bnwo-32 b8jc-28 b8co-32 b8jc-28 b8co-32 b8jc-28",
     "b8co-32 9xvc-28 cj0o-32 9xvc-28 cyko-32 9ibc-28 cyko-32 9ibc-28 cyko-32 9xvc-28 cj0o-32",
     "9xvc-28 cj0o-32 9xvc-28 cyko-32 9ibc-28 cyko-32 9ibc-28 cyko-32 9xvc-28 cj0o-32 9xvc-28",
     "cj0o-32 9xvc-28 cj0o-32 9xvc-28 cyko-32 9ibc-28 cyko-32 9ibc-28 cyko-32 9xvc-28 cj0o-32",
     "9xvc-28 cj0o-32 9xvc-28 cyko-32 9ibc-28 cyko-32 9ibc-28 cyko-32 9ibc-28 cyko-32 9xvc-28",
     "cj0o-32 9xvc-28 cj0o-32 8n7c-28"],
    some ⟨-28800, -25200, ⟨3, 2, 0, 7200⟩, ⟨11, 1, 0, 7200⟩⟩⟩,
  ⟨["America/Fort_Nelson"], -28800,
    ["78xc-28 b8co-32 b8jc-28 bnwo-32 b8jc-28 b8co-32 b8jc-28 b8co-32 b8jc-28 b8co-32 b8jc-28",
     "b8co-32 b8jc-28 bnwo-32 aszc-28 bnwo-32 b8jc-28 b8co-32 b8jc-28 b8co-32 b8jc-28 b8co-32",
     "b8jc-28 b8co-32 b8jc-28 bnwo-32 aszc-28 bnwo-32 b8jc-28 b8co-32 b8jc-28 b8co-32 b8jc-28",
     "b8co-32 9xvc-28 cj0o-32 9xvc-28 cyko-32 9ibc-28 cyko-32 9ibc-28 cyko-32 9xvc-28 cj0o-32",
     "9xvc-28 cj0o-32 9xvc-28 cyko-32 9ibc-28 cyko-32 9ibc-28 cyko-32 9xvc-28 cj0o-32 9xvc-28",
     "cj0o-32 9xvc-28 cj0o-32 9xvc-28 cyko-32 9ibc-28 cyko-32 9ibc-28 cyko-32 9xvc-28 cj0o-32",
     "9xvc-28 cj0o-32 9xvc-28 cyko-32 9ibc-28 cyko-32 9ibc-28 cyko-32 87nc-28 eoso-32 7s3c-28",
     "eoso-32 7s3c-28 eoso-32 87nc-28 eoso-32 7s3c-28 eoso-32 7s3c-28 eoso-32 7s3c-28 eoso-32",
     "7s3c-28 eoso-32 7s3c-28"], none⟩,
  ⟨["America/Fortaleza"], -10800,
    ["9x620-8 87go-12 dtvc-8 6wso-12 fmbc-8 6h8o-12 fk3c-8 6h8o-12 fznc-8 7cco-12 61cjc-8 92ko-12",
     "dtvc-8 v0o-12 m1fc-8 7rwo-12"], none⟩,
  ⟨["America/Glace_Bay"], -14400,
    ["1glw0-12 b8co-16 b8jc-12 b8co-16 b8jc-12 b8co-16 b8jc-12 b8co-16 b8jc-12 bnwo-16 aszc-12",
     "bnwo-16 b8jc-12 b8co-16 b8jc-12 b8co-16 b8jc-12 b8co-16 b8jc-12 b8co-16 b8jc-12 bnwo-16",
     "aszc-12 bnwo-16 b8jc-12 b8co-16 b8jc-12 b8co-16 b8jc-12 b8co-16 9xvc-12 cj0o-16 9xvc-12",
     "cyko-16 9ibc-12 cyko-16 9ibc-12 cyko-16 9xvc-12 cj0o-16 9xvc-12 cj0o-16 9xvc-12 cyko-16",
     "9ibc-12 cyko-16 9ibc-12 cyko-16 9xvc-12 cj0o-16 9xvc-12 cj0o-16 9xvc-12 cj0o-16 9xvc-12",
     "cyko-16 9ibc-12 cyko-16 9ibc-12 cyko-16 9xvc-12 cj0o-16 9xvc-12 cj0o-16 9xvc-12 cyko-16",
     "9ibc-12 cyko-16 9ibc-12 cyko-16 87nc-12"],
    some ⟨-14400, -10800, ⟨3, 2, 0, 7200⟩, ⟨11, 1, 0, 7200⟩⟩⟩,
  ⟨["America/Goose_Bay"], -14400,
    ["78k0-12 b8co-16 b8jc-12 bnwo-16 b8jc-12 b8co-16 b8jc-12 b8co-16 b8jc-12 b8co-16 b8jc-12",
     "b8co-16 b8jc-12 bnwo-16 aszc-12 bnwo-16 b8jc-12 b8co-16 b8jc-12 b8co-16 b8jc-12 b8co-16",
     "b8jc-12 b8co-16 b8jc-12 bnwo-16 aszc-12 bnwo-16 b8jc-12 b8co-16 b8jc-12 b8co-16 b8jc-12",
     "b8co-16 9xoq-12 cj0o-16 9xvc-8 cyhc-16 9ieo-12 cyko-16 9ibc-12 cyko-16 9xvc-12 cj0o-16",
     "9xvc-12 cj0o-16 9xvc-12 cyko-16 9ibc-12 cyko-16 9ibc-12 cyko-16 9xvc-12 cj0o-16 9xvc-12",
     "cj0o-16 9xvc-12 cj0o-16 9xvc-12 cyko-16 9ibc-12 cyko-16 9ibc-12 cyko-16 9xvc-12 cj0o-16",
     "9xvc-12 cj0o-16 9xvc-12 cyko-16 9ibc-12 cyko-16 9ibc-12 cyko-16 87nc-12 eoso-16 7s3c-12",
     "eoso-16 7s3c-12 eoso-16 87nc-12 eoso-16 7s3c-12 eoza-16"],
    some ⟨-14400, -10800, ⟨3, 2, 0, 7200⟩, ⟨11, 1, 0, 7200⟩⟩⟩,
  ⟨["America/Grand_Turk"], -18000,
    ["5ubrc-16 b8co-20 b8jc-16 b8co-20 b8jc-16 b8co-20 b8jc-16 bnwo-20 aszc-16 bnwo-20 b8jc-16",
     "b8co-20 b8jc-16 b8co-20 b8jc-16 b8co-20 9xvc-16 cj0o-20 9xvc-16 cyko-20 9ibc-16 cyko-20",
     "9ibc-16 cyko-20 9xvc-16 cj0o-20 9xvc-16 cj0o-20 9xvc-16 cyko-20 9ibc-16 cyko-20 9ibc-16",
     "cyko-20 9xvc-16 cj0o-20 9xvc-16 cj0o-20 9xvc-16 cj0o-20 9xvc-16 cyko-20 9ibc-16 cyko-20",
     "9ibc-16 cyko-20 9xvc-16 cj0o-20 9xvc-16 cj0o-20 9xvc-16 cyko-20 9ibc-16 cyko-20 9ibc-16",
     "cyko-20 87nc-16 eoso-20 7s3c-16 eoso-20 7s3c-16 eoso-20 87nc-16 eoso-20 7s3c-16 eoso-20",
     "7s3c-16 eoso-20 7s3c-16 eoso-20 7s3c-16 eoso-20 7s3c-16 2aj0o-20"],
    some ⟨-18000, -14400, ⟨3, 2, 0, 7200⟩, ⟨11, 1, 0, 7200⟩⟩⟩,
  ⟨["America/Guatemala"], -21600,
    ["2g1g0-20 5m4o-24 5s7nc-20 7ngo-24 4p2rc-20 ad8o-24 966rc-20 9i4o-24"], none⟩,
  ⟨["America/Guayaquil"], -18000,
    ["ecm8o-16 498o-20"], none⟩,
  ⟨["America/Guyana"], -13500,
    ["3hxoi-12 afm8u-16"], none⟩,
  ⟨["America/Halifax"], -14400,
    ["78k0-12 b8co-16 b8jc-12 bnwo-16 b8jc-12 b8co-16 b8jc-12 b8co-16 b8jc-12 b8co-16 b8jc-12",
     "b8co-16 b8jc-12 bnwo-16 aszc-12 bnwo-16 b8jc-12 b8co-16 b8jc-12 b8co-16 b8jc-12 b8co-16",
     "b8jc-12 b8co-16 b8jc-12 bnwo-16 aszc-12 bnwo-16 b8jc-12 b8co-16 b8jc-12 b8co-16 b8jc-12",
     "b8co-16 9xvc-12 cj0o-16 9xvc-12 cyko-16 9ibc-12 cyko-16 9ibc-12 cyko-16 9xvc-12 cj0o-16",
     "9xvc-12 cj0o-16 9xvc-12 cyko-16 9ibc-12 cyko-16 9ibc-12 cyko-16 9xvc-12 cj0o-16 9xvc-12",
     "cj0o-16 9xvc-12 cj0o-16 9xvc-12 cyko-16 9ibc-12 cyko-16 9ibc-12 cyko-16 9xvc-12 cj0o-16",
     "9xvc-12 cj0o-16 9xvc-12 cyko-16 9ibc-12 cyko-16 9ibc-12 cyko-16 87nc-12"],
    some ⟨-14400, -10800, ⟨3, 2, 0, 7200⟩, ⟨11, 1, 0, 7200⟩⟩⟩,
  ⟨["America/Havana"], -18000,
    ["78go-16 b8co-20 b8jc-16 bnwo-20 b8jc-16 9xoo-20 cj7c-16 9zwo-20 cgzc-16 a24o-20 cerc-16",
     "b8co-20 b8jc-16 bnwo-20 aszc-16 bnwo-20 bo3c-16 9i4o-20 9xvc-16 cyko-20 9ibc-16 cyko-20",
     "cyrc-16 9i4o-20 cyrc-16 9i4o-20 cyrc-16 9i4o-20 cyrc-16 9xoo-20 cj7c-16 9xoo-20 9ibc-16",
     "cyko-20 9ibc-16 cyko-20 9xvc-16 cj0o-20 9xvc-16 cj0o-20 aszc-16 c3go-20 aszc-16 bo00-20",
     "asw0-16 bo00-20 asw0-16 bo00-20 asw0-16 bo00-20 asw0-16 bo00-20 b8g0-16 b8g0-20 b8g0-16",
     "bo00-20 adc0-16 cyo0-20 9i80-16 de80-20 9i80-16 cyo0-20 9i80-16 cyo0-20 9xs0-16 cj40-20",
     "9xs0-16 cj40-20 9i80-16 1mc00-20 87k0-16 e9c0-20 8n40-16 dts0-20 87k0-16 e9c0-20 8n40-16",
     "e9c0-20 8n40-16 eow0-20 8n40-16 de80-20"],
    some ⟨-18000, -14400, ⟨3, 2, 0, 0⟩, ⟨11, 1, 0, 3600⟩⟩⟩,
  ⟨["America/Hermosillo"], -25200,
    ["ggb20-24 cj0o-28 9xvc-24 cj0o-28 9xvc-24 cj0o-28"], none⟩,
  ⟨["America/Indiana/Indianapolis"], -18000,
    ["78nc-16 b8co-20 m6ybc-16 cyko-20 87nc-16"],
    some ⟨-18000, -14400, ⟨3, 2, 0, 7200⟩, ⟨11, 1, 0, 7200⟩⟩⟩,
  ⟨["America/Indiana/Knox"], -21600,
    ["78qo-20 b8co-24 b8jc-20 bnwo-24 b8jc-20 b8co-24 b8jc-20 b8co-24 4bnc-20 i58o-24 7cjc-20",
     "f4co-24 b8jc-20 bnwo-24 aszc-20 bnwo-24 b8jc-20 b8co-24 b8jc-20 b8co-24 b8jc-20 b8co-24",
     "b8jc-20 b8co-24 b8jc-20 bnwo-24 aszc-20 bnwo-24 b8jc-20 b8co-24 b8jc-20 b8co-24 b8jc-20",
     "b8co-24 9xvc-20 cj0o-24 9xvc-20 cyko-24 9ibc-20 cyko-24 9ibc-20 cyko-24 9xvc-20 9qv0o-24",
     "87nc-20"],
    some ⟨-21600, -18000, ⟨3, 2, 0, 7200⟩, ⟨11, 1, 0, 7200⟩⟩⟩,
  ⟨["America/Indiana/Marengo"], -18000,
    ["78nc-16 b8co-20 b8jc-16 bnwo-20 b8jc-16 b8co-20 b8jc-16 b8co-20 ttfc-16 f4co-20 j26bc-16",
     "cyko-20 87nc-16"],
    some ⟨-18000, -14400, ⟨3, 2, 0, 7200⟩, ⟨11, 1, 0, 7200⟩⟩⟩,
  ⟨["America/Indiana/Petersburg"], -21600,
    ["78qo-20 b8co-24 b8jc-20 bnwo-24 b8jc-20 b8co-24 b8jc-20 b8co-24 4bnc-20 i58o-24 7cjc-20",
     "f4co-24 b8jc-20 bnwo-24 aszc-20 ihfgo-24 87nc-20 mgso-16"],
    some ⟨-18000, -14400, ⟨3, 2, 0, 7200⟩, ⟨11, 1, 0, 7200⟩⟩⟩,
  ⟨["America/Indiana/Tell_City"], -18000,
    ["78nc-16 b8co-20 mjwzc-24 87nc-20"],
    some ⟨-21600, -18000, ⟨3, 2, 0, 7200⟩, ⟨11, 1, 0, 7200⟩⟩⟩,
  ⟨["America/Indiana/Vevay"], -18000,
    ["78nc-16 b8co-20 b8jc-16 bnwo-20 b8jc-16 b8co-20 kxkzc-16 cyko-20 87nc-16"],
    some ⟨-18000, -14400, ⟨3, 2, 0, 7200⟩, ⟨11, 1, 0, 7200⟩⟩⟩,
  ⟨["America/Indiana/Vincennes"], -18000,
    ["78nc-16 b8co-20 mjwzc-24 87nc-20 mgso-16"],
    some ⟨-18000, -14400, ⟨3, 2, 0, 7200⟩, ⟨11, 1, 0, 7200⟩⟩⟩,
  ⟨["America/Indiana/Winamac"], -18000,
    ["78nc-16 b8co-20 mjwzc-24 87nc-16 eopc-20"],
    some ⟨-18000, -14400, ⟨3, 2, 0, 7200⟩, ⟨11, 1, 0, 7200⟩⟩⟩,
  ⟨["America/Inuvik"], -28800,
    ["1gm9c-28 b8co-32 b8jc-28 b8co-32 b8jc-28 b8co-32 b8jc-28 b8co-32 b8jc-28 bnwo-32 aszc-28",
     "bnwo-32 b8jc-28 b8co-32 b8jc-24 b89c-28 b8jc-24 b8co-28 b8jc-24 b8co-28 b8jc-24 bnwo-28",
     "aszc-24 bnwo-28 b8jc-24 b8co-28 b8jc-24 b8co-28 b8jc-24 b8co-28 9xvc-24 cj0o-28 9xvc-24",
     "cyko-28 9ibc-24 cyko-28 9ibc-24 cyko-28 9xvc-24 cj0o-28 9xvc-24 cj0o-28 9xvc-24 cyko-28",
     "9ibc-24 cyko-28 9ibc-24 cyko-28 9xvc-24 cj0o-28 9xvc-24 cj0o-28 9xvc-24 cj0o-28 9xvc-24",
     "cyko-28 9ibc-24 cyko-28 9ibc-24 cyko-28 9xvc-24 cj0o-28 9xvc-24 cj0o-28 9xvc-24 cyko-28",
     "9ibc-24 cyko-28 9ibc-24 cyko-28 87nc-24"],
    some ⟨-25200, -21600, ⟨3, 2, 0, 7200⟩, ⟨11, 1, 0, 7200⟩⟩⟩,
  ⟨["America/Iqaluit", "America/Pangnirtung"], -18000,
    ["1glzc-16 b8co-20 b8jc-16 b8co-20 b8jc-16 b8co-20 b8jc-16 b8co-20 b8jc-16 bnwo-20 aszc-16",
     "bnwo-20 b8jc-16 b8co-20 b8jc-16 b8co-20 b8jc-16 b8co-20 b8jc-16 b8co-20 b8jc-16 bnwo-20",
     "aszc-16 bnwo-20 b8jc-16 b8co-20 b8jc-16 b8co-20 b8jc-16 b8co-20 9xvc-16 cj0o-20 9xvc-16",
     "cyko-20 9ibc-16 cyko-20 9ibc-16 cyko-20 9xvc-16 cj0o-20 9xvc-16 cj0o-20 9xvc-16 cyko-20",
     "9ibc-16 cyko-20 9ibc-16 cyko-20 9xvc-16 cj0o-20 9xvc-16 cj0o-20 9xvc-16 cj0o-20 9xvc-16",
     "cyko-24 9ieo-20 mgso-16 cyko-20 9xvc-16 cj0o-20 9xvc-16 cj0o-20 9xvc-16 cyko-20 9ibc-16",
     "cyko-20 9ibc-16 cyko-20 87nc-16"],
    some ⟨-18000, -14400, ⟨3, 2, 0, 7200⟩, ⟨11, 1, 0, 7200⟩⟩⟩,
  ⟨["America/Jamaica"], -18000,
    ["2imvc-16 i58o-20 7cjc-16 f4co-20 b8jc-16 bnwo-20 aszc-16 bnwo-20 b8jc-16 b8co-20 b8jc-16",
     "b8co-20 b8jc-16 b8co-20 b8jc-16 b8co-20 b8jc-16 bnwo-20 aszc-16 bnwo-20"], none⟩,
  ⟨["America/Juneau"], -28800,
    ["78xc-28 b8co-32 b8jc-28 bnwo-32 b8jc-28 b8co-32 b8jc-28 b8co-32 4bnc-28 i58o-32 7cjc-28",
     "f4co-32 b8jc-28 bnwo-32 aszc-28 bnwo-32 b8jc-28 b8co-32 b8jc-28 b8co-32 xpfc-28 b8co-32",
     "b8jc-28 bnwo-32 aszc-28 bnwo-36 b8mo-32 b8co-36 b8jc-32 b8co-36 b8jc-32 b8co-36 9xvc-32",
     "cj0o-36 9xvc-32 cyko-36 9ibc-32 cyko-36 9ibc-32 cyko-36 9xvc-32 cj0o-36 9xvc-32 cj0o-36",
     "9xvc-32 cyko-36 9ibc-32 cyko-36 9ibc-32 cyko-36 9xvc-32 cj0o-36 9xvc-32 cj0o-36 9xvc-32",
     "cj0o-36 9xvc-32 cyko-36 9ibc-32 cyko-36 9ibc-32 cyko-36 9xvc-32 cj0o-36 9xvc-32 cj0o-36",
     "9xvc-32 cyko-36 9ibc-32 cyko-36 9ibc-32 cyko-36 87nc-32"],
    some ⟨-32400, -28800, ⟨3, 2, 0, 7200⟩, ⟨11, 1, 0, 7200⟩⟩⟩,
  ⟨["America/Kentucky/Louisville"], -18000,
    ["78nc-16 b8co-20 b8jc-16 bnwo-20 b8jc-16 b8co-20 b8jc-16 b8co-20 ttfc-16 f4co-20 b8jc-16",
     "bnwo-20 aszc-16 bnwo-20 b8jc-16 b8co-20 b8jc-16 b8co-20 b8jc-16 b8co-20 b8jc-16 b8co-20",
     "b8jc-16 bnwo-20 aszc-16 bnwo-20 b8jc-16 b8co-20 b8jc-16 b8co-20 b8jc-16 b8co-20 9xvc-16",
     "cj0o-20 9xvc-16 cyko-20 9ibc-16 cyko-20 9ibc-16 cyko-20 9xvc-16 cj0o-20 9xvc-16 cj0o-20",
     "9xvc-16 cyko-20 9ibc-16 cyko-20 9ibc-16 cyko-20 9xvc-16 cj0o-20 9xvc-16 cj0o-20 9xvc-16",
     "cj0o-20 9xvc-16 cyko-20 9ibc-16 cyko-20 9ibc-16 cyko-20 9xvc-16 cj0o-20 9xvc-16 cj0o-20",
     "9xvc-16 cyko-20 9ibc-16 cyko-20 9ibc-16 cyko-20 87nc-16"],
    some ⟨-18000, -14400, ⟨3, 2, 0, 7200⟩, ⟨11, 1, 0, 7200⟩⟩⟩,
  ⟨["America/Kentucky/Monticello"], -21600,
    ["78qo-20 b8co-24 b8jc-20 bnwo-24 b8jc-20 b8co-24 b8jc-20 b8co-24 4bnc-20 i58o-24 7cjc-20",
     "f4co-24 b8jc-20 bnwo-24 aszc-20 bnwo-24 b8jc-20 b8co-24 b8jc-20 b8co-24 b8jc-20 b8co-24",
     "b8jc-20 b8co-24 b8jc-20 bnwo-24 aszc-20 bnwo-24 b8jc-20 b8co-24 b8jc-20 b8co-24 b8jc-20",
     "b8co-24 9xvc-20 cj0o-24 9xvc-20 cyko-24 9ibc-20 cyko-24 9ibc-20 cyko-24 9xvc-20 cj0o-24",
     "9xvc-20 cj0o-24 9xvc-20 cyko-24 9ibc-20 cyko-24 9ibc-20 cyko-24 9xvc-20 cj0o-24 9xvc-20",
     "cj0o-24 9xvc-20 cj0o-24 9xvc-20 cyko-24 9ibc-20 mgso-16 cyko-20 9xvc-16 cj0o-20 9xvc-16",
     "cj0o-20 9xvc-16 cyko-20 9ibc-16 cyko-20 9ibc-16 cyko-20 87nc-16"],
    some ⟨-18000, -14400, ⟨3, 2, 0, 7200⟩, ⟨11, 1, 0, 7200⟩⟩⟩,
  ⟨["America/Lima"], -18000,
    ["a0vko-16 5jwo-20 gz7c-16 5jwo-20 1q3nc-16 5jwo-20 2cmrc-16 5jwo-20"], none⟩,
  ⟨["America/Los_Angeles", "PST8PDT"], -28800,
    ["78xc-28 b8co-32 b8jc-28 bnwo-32 b8jc-28 b8co-32 b8jc-28 b8co-32 4bnc-28 i58o-32 7cjc-28",
     "f4co-32 b8jc-28 bnwo-32 aszc-28 bnwo-32 b8jc-28 b8co-32 b8jc-28 b8co-32 b8jc-28 b8co-32",
     "b8jc-28 b8co-32 b8jc-28 bnwo-32 aszc-28 bnwo-32 b8jc-28 b8co-32 b8jc-28 b8co-32 b8jc-28",
     "b8co-32 9xvc-28 cj0o-32 9xvc-28 cyko-32 9ibc-28 cyko-32 9ibc-28 cyko-32 9xvc-28 cj0o-32",
     "9xvc-28 cj0o-32 9xvc-28 cyko-32 9ibc-28 cyko-32 9ibc-28 cyko-32 9xvc-28 cj0o-32 9xvc-28",
     "cj0o-32 9xvc-28 cj0o-32 9xvc-28 cyko-32 9ibc-28 cyko-32 9ibc-28 cyko-32 9xvc-28 cj0o-32",
     "9xvc-28 cj0o-32 9xvc-28 cyko-32 9ibc-28 cyko-32 9ibc-28 cyko-32 87nc-28"],
    some ⟨-28800, -25200, ⟨3, 2, 0, 7200⟩, ⟨11, 1, 0, 7200⟩⟩⟩,
  ⟨["America/Maceio"], -10800,
    ["9x620-8 87go-12 dtvc-8 6wso-12 fmbc-8 6h8o-12 fk3c-8 6h8o-12 fznc-8 7cco-12 3jwjc-8 7cco-12",
     "2a3nc-8 92ko-12 dtvc-8 v0o-12 m1fc-8 7rwo-12"], none⟩,
  ⟨["America/Managua"], -21600,
    ["23780-20 14hoo-24 2k1fc-20 63wo-24 gczc-20 63wo-24 77tso-20 ggvc-24 643c-20 2i6ko-24",
     "56hfc-20 asso-24 cyy0-20 9i1c-24"], none⟩,
  ⟨["America/Manaus"], -14400,
    ["9x65c-12 87go-16 dtvc-12 6wso-16 fmbc-12 6h8o-16 3kc3c-12 7rwo-16"], none⟩,
  ⟨["America/Martinique"], -14400,
    ["6fhpc-12 asso-16"], none⟩,
  ⟨["America/Matamoros"], -21600,
    ["bfoqo-20 cyko-24 4nnnc-20 cj0o-24 9xvc-20 cj0o-24 9xvc-20 cj0o-24 9xvc-20 cyko-24 9ibc-20",
     "cyko-24 bo3c-20 92ko-24 bo3c-20 cj0o-24 9xvc-20 cj0o-24 9xvc-20 cyko-24 9ibc-20 cyko-24",
     "9ibc-20 cyko-24 9ibc-20 cyko-24 9xvc-20 cj0o-24 9xvc-20 cj0o-24 8n7c-20"],
    some ⟨-21600, -18000, ⟨3, 2, 0, 7200⟩, ⟨11, 1, 0, 7200⟩⟩⟩,
  ⟨["America/Mazatlan"], -25200,
    ["ggb20-24 cj0o-28 9xvc-24 cj0o-28 9xvc-24 cj0o-28 9xvc-24 cyko-28 9ibc-24 cyko-28 bo3c-24",
     "92ko-28 bo3c-24 cj0o-28 9xvc-24 cj0o-28 9xvc-24 cyko-28 9ibc-24 cyko-28 9ibc-24 cyko-28",
     "9ibc-24 cyko-28 9xvc-24 cj0o-28 9xvc-24 cj0o-28 9xvc-24 cyko-28 9ibc-24 cyko-28 9ibc-24",
     "cyko-28 9xvc-24 cj0o-28 9xvc-24 cj0o-28 9xvc-24 cj0o-28 9xvc-24 cyko-28 9ibc-24 cyko-28",
     "9ibc-24 cyko-28 9xvc-24 cj0o-28 9xvc-24 cj0o-28 9xvc-24 cyko-28 9ibc-24 cyko-28"], none⟩,
  ⟨["America/Menominee"], -18000,
    ["2ebbc-24 4bnc-20 i58o-24 7cjc-20 f4co-24 b8jc-20 bnwo-24 aszc-20 bnwo-24 b8jc-20 b8co-24",
     "b8jc-20 b8co-24 b8jc-20 b8co-24 b8jc-20 b8co-24 b8jc-20 bnwo-24 aszc-20 bnwo-24 b8jc-20",
     "b8co-24 b8jc-20 b8co-24 b8jc-20 b8co-24 9xvc-20 cj0o-24 9xvc-20 cyko-24 9ibc-20 cyko-24",
     "9ibc-20 cyko-24 9xvc-20 cj0o-24 9xvc-20 cj0o-24 9xvc-20 cyko-24 9ibc-20 cyko-24 9ibc-20",
     "cyko-24 9xvc-20 cj0o-24 9xvc-20 cj0o-24 9xvc-20 cj0o-24 9xvc-20 cyko-24 9ibc-20 cyko-24",
     "9ibc-20 cyko-24 9xvc-20 cj0o-24 9xvc-20 cj0o-24 9xvc-20 cyko-24 9ibc-20 cyko-24 9ibc-20",
     "cyko-24 87nc-20"],
    some ⟨-21600, -18000, ⟨3, 2, 0, 7200⟩, ⟨11, 1, 0, 7200⟩⟩⟩,
  ⟨["America/Merida"], -21600,
    ["7ibuo-20 j70o-24 8es3c-20 cj0o-24 9xvc-20 cj0o-24 9xvc-20 cj0o-24 9xvc-20 cyko-24 9ibc-20",
     "cyko-24 bo3c-20 92ko-24 bo3c-20 cj0o-24 9xvc-20 cj0o-24 9xvc-20 cyko-24 9ibc-20 cyko-24",
     "9ibc-20 cyko-24 9ibc-20 cyko-24 9xvc-20 cj0o-24 9xvc-20 cj0o-24 9xvc-20 cyko-24 9ibc-20",
     "cyko-24 9ibc-20 cyko-24 9xvc-20 cj0o-24 9xvc-20 cj0o-24 9xvc-20 cj0o-24 9xvc-20 cyko-24",
     "9ibc-20 cyko-24 9ibc-20 cyko-24 9xvc-20 cj0o-24 9xvc-20 cj0o-24 9xvc-20 cyko-24 9ibc-20",
     "cyko-24"], none⟩,
  ⟨["America/Metlakatla"], -28800,
    ["78xc-28 b8co-32 b8jc-28 bnwo-32 b8jc-28 b8co-32 b8jc-28 b8co-32 4bnc-28 i58o-32 7cjc-28",
     "f4co-32 b8jc-28 bnwo-32 aszc-28 bnwo-32 b8jc-28 b8co-32 b8jc-28 b8co-32 b8jc-28 b8co-32",
     "b8jc-28 b8co-32 b8jc-28 bnwo-32 aszc-28 bnwo-32 k1lvc-36 87nc-32 eoso-36 7s3c-32 eoso-36",
     "7s3c-32 jfwo-36 30zc-32"],
    some ⟨-32400, -28800, ⟨3, 2, 0, 7200⟩, ⟨11, 1, 0, 7200⟩⟩⟩,
  ⟨["America/Mexico_City"], -21600,
    ["ggayo-20 cj0o-24 9xvc-20 cj0o-24 9xvc-20 cj0o-24 9xvc-20 cyko-24 9ibc-20 cyko-24 bo3c-20",
     "92ko-24 bo3c-20 cj0o-24 9xvc-20 cj0o-24 9xvc-20 cyko-24 9ibc-20 cyko-24 9ibc-20 cyko-24",
     "9ibc-20 cyko-24 9xvc-20 cj0o-24 9xvc-20 cj0o-24 9xvc-20 cyko-24 9ibc-20 cyko-24 9ibc-20",
     "cyko-24 9xvc-20 cj0o-24 9xvc-20 cj0o-24 9xvc-20 cj0o-24 9xvc-20 cyko-24 9ibc-20 cyko-24",
     "9ibc-20 cyko-24 9xvc-20 cj0o-24 9xvc-20 cj0o-24 9xvc-20 cyko-24 9ibc-20 cyko-24"], none⟩,
  ⟨["America/Miquelon"], -14400,
    ["6h19c-12 4c6bc-8 cj0o-12 9xvc-8 cyko-12 9ibc-8 cyko-12 9ibc-8 cyko-12 9xvc-8 cj0o-12 9xvc-8",
     "cj0o-12 9xvc-8 cyko-12 9ibc-8 cyko-12 9ibc-8 cyko-12 9xvc-8 cj0o-12 9xvc-8 cj0o-12 9xvc-8",
     "cj0o-12 9xvc-8 cyko-12 9ibc-8 cyko-12 9ibc-8 cyko-12 9xvc-8 cj0o-12 9xvc-8 cj0o-12 9xvc-8",
     "cyko-12 9ibc-8 cyko-12 9ibc-8 cyko-12 87nc-8"],
    some ⟨-10800, -7200, ⟨3, 2, 0, 7200⟩, ⟨11, 1, 0, 7200⟩⟩⟩,
  ⟨["America/Moncton"], -14400,
    ["78k0-12 b8co-16 b8jc-12 bnwo-16 b8jc-12 b8co-16 xpfc-12 b8co-16 b8jc-12 b8co-16 b8jc-12",
     "bnwo-16 aszc-12 bnwo-16 b8jc-12 b8co-16 b8jc-12 b8co-16 b8jc-12 b8co-16 b8jc-12 b8co-16",
     "b8jc-12 bnwo-16 aszc-12 bnwo-16 b8jc-12 b8co-16 b8jc-12 b8co-16 b8jc-12 b8co-16 9xvc-12",
     "cj0o-16 9xvc-12 cyko-16 9ibc-12 cyko-16 9ibc-12 cyko-16 9xvc-12 cj0o-16 9xvc-12 cj0o-16",
     "9xoq-12 cyko-16 9ibc-12 cyko-16 9ibc-12 cyko-16 9xvc-12 cj0o-16 9xvc-12 cj0o-16 9xvc-12",
     "cj0o-16 9xvc-12 cyko-16 9ibc-12 cyko-16 9ibc-12 cyko-16 9xvc-12 cj0o-16 9xvc-12 cj0o-16",
     "9xvc-12 cyko-16 9ibc-12 cyko-16 9ibc-12 cyko-16 87ty-12"],
    some ⟨-14400, -10800, ⟨3, 2, 0, 7200⟩, ⟨11, 1, 0, 7200⟩⟩⟩,
  ⟨["America/Monterrey"], -21600,
    ["bfoqo-20 cyko-24 4nnnc-20 cj0o-24 9xvc-20 cj0o-24 9xvc-20 cj0o-24 9xvc-20 cyko-24 9ibc-20",
     "cyko-24 bo3c-20 92ko-24 bo3c-20 cj0o-24 9xvc-20 cj0o-24 9xvc-20 cyko-24 9ibc-20 cyko-24",
     "9ibc-20 cyko-24 9ibc-20 cyko-24 9xvc-20 cj0o-24 9xvc-20 cj0o-24 9xvc-20 cyko-24 9ibc-20",
     "cyko-24 9ibc-20 cyko-24 9xvc-20 cj0o-24 9xvc-20 cj0o-24 9xvc-20 cj0o-24 9xvc-20 cyko-24",
     "9ibc-20 cyko-24 9ibc-20 cyko-24 9xvc-20 cj0o-24 9xvc-20 cj0o-24 9xvc-20 cyko-24 9ibc-20",
     "cyko-24"], none⟩,
  ⟨["America/Montevideo"], -10800,
    ["7620-8 330o-12 15wzc-8 56ko-12 xpfc-6 3gb0-10 aszc-12 6wxo-8 61oo-12 12w3c-8 4r0o-12 gurc-8",
     "5m4o-12 hpvc-8 4r0o-12 3gjc-8 jvgo-12 4umrc-8 4oso-12 hpvc-8 56ko-12 eozc-8 7cco-12 eozc-8",
     "87go-12 eozc-8 7rwo-12 e9fc-8 87go-12 78k3c-8 bo3c-12 c3nc-8 9i4o-12 cj7c-8 9xoo-12 cyrc-8",
     "9i4o-12 cyrc-8 9i4o-12 cyrc-8 9xoo-12 cj7c-8 9xoo-12 cj7c-8 9xoo-12 cyrc-8 9i4o-12 cyrc-8",
     "9i4o-12 cyrc-8 9i4o-12"], none⟩,
  ⟨["America/Montreal", "America/Nassau", "America/Nipigon", "America/Thunder_Bay",
    "America/Toronto"], -18000,
    ["78nc-16 b8co-20 b8jc-16 bnwo-20 b8jc-16 b8co-20 b8jc-16 b8co-20 b8jc-16 b8co-20 b8jc-16",
     "b8co-20 b8jc-16 bnwo-20 aszc-16 bnwo-20 b8jc-16 b8co-20 b8jc-16 b8co-20 b8jc-16 b8co-20",
     "b8jc-16 b8co-20 b8jc-16 bnwo-20 aszc-16 bnwo-20 b8jc-16 b8co-20 b8jc-16 b8co-20 b8jc-16",
     "b8co-20 9xvc-16 cj0o-20 9xvc-16 cyko-20 9ibc-16 cyko-20 9ibc-16 cyko-20 9xvc-16 cj0o-20",
     "9xvc-16 cj0o-20 9xvc-16 cyko-20 9ibc-16 cyko-20 9ibc-16 cyko-20 9xvc-16 cj0o-20 9xvc-16",
     "cj0o-20 9xvc-16 cj0o-20 9xvc-16 cyko-20 9ibc-16 cyko-20 9ibc-16 cyko-20 9xvc-16 cj0o-20",
     "9xvc-16 cj0o-20 9xvc-16 cyko-20 9ibc-16 cyko-20 9ibc-16 cyko-20 87nc-16"],
    some ⟨-18000, -14400, ⟨3, 2, 0, 7200⟩, ⟨11, 1, 0, 7200⟩⟩⟩,
  ⟨["America/New_York", "EST5EDT", "posixrules"], -18000,
    ["78nc-16 b8co-20 b8jc-16 bnwo-20 b8jc-16 b8co-20 b8jc-16 b8co-20 4bnc-16 i58o-20 7cjc-16",
     "f4co-20 b8jc-16 bnwo-20 aszc-16 bnwo-20 b8jc-16 b8co-20 b8jc-16 b8co-20 b8jc-16 b8co-20",
     "b8jc-16 b8co-20 b8jc-16 bnwo-20 aszc-16 bnwo-20 b8jc-16 b8co-20 b8jc-16 b8co-20 b8jc-16",
     "b8co-20 9xvc-16 cj0o-20 9xvc-16 cyko-20 9ibc-16 cyko-20 9ibc-16 cyko-20 9xvc-16 cj0o-20",
     "9xvc-16 cj0o-20 9xvc-16 cyko-20 9ibc-16 cyko-20 9ibc-16 cyko-20 9xvc-16 cj0o-20 9xvc-16",
     "cj0o-20 9xvc-16 cj0o-20 9xvc-16 cyko-20 9ibc-16 cyko-20 9ibc-16 cyko-20 9xvc-16 cj0o-20",
     "9xvc-16 cj0o-20 9xvc-16 cyko-20 9ibc-16 cyko-20 9ibc-16 cyko-20 87nc-16"],
    some ⟨-18000, -14400, ⟨3, 2, 0, 7200⟩, ⟨11, 1, 0, 7200⟩⟩⟩,
  ⟨["America/Nome"], -39600,
    ["797c-40 b8co-44 b8jc-40 bnwo-44 b8jc-40 b8co-44 b8jc-40 b8co-44 4bnc-40 i58o-44 7cjc-40",
     "f4co-44 b8jc-40 bnwo-44 aszc-40 bnwo-44 b8jc-40 b8co-44 b8jc-40 b8co-44 b8jc-40 b8co-44",
     "b8jc-40 b8co-44 b8jc-40 bnwo-44 aszc-40 bnwo-36 b8co-32 b8co-36 b8jc-32 b8co-36 b8jc-32",
     "b8co-36 9xvc-32 cj0o-36 9xvc-32 cyko-36 9ibc-32 cyko-36 9ibc-32 cyko-36 9xvc-32 cj0o-36",
     "9xvc-32 cj0o-36 9xvc-32 cyko-36 9ibc-32 cyko-36 9ibc-32 cyko-36 9xvc-32 cj0o-36 9xvc-32",
     "cj0o-36 9xvc-32 cj0o-36 9xvc-32 cyko-36 9ibc-32 cyko-36 9ibc-32 cyko-36 9xvc-32 cj0o-36",
     "9xvc-32 cj0o-36 9xvc-32 cyko-36 9ibc-32 cyko-36 9ibc-32 cyko-36 87nc-32"],
    some ⟨-32400, -28800, ⟨3, 2, 0, 7200⟩, ⟨11, 1, 0, 7200⟩⟩⟩,
  ⟨["America/Noronha"], -7200,
    ["9x5yo-4 87go-8 dtvc-4 6wso-8 fmbc-4 6h8o-8 fk3c-4 6h8o-8 fznc-4 7cco-8 61cjc-4 92ko-8",
     "dtvc-4 fgo-8 mgzc-4 7rwo-8"], none⟩,
  ⟨["America/North_Dakota/Beulah"], -25200,
    ["78u0-24 b8co-28 b8jc-24 bnwo-28 b8jc-24 b8co-28 b8jc-24 b8co-28 4bnc-24 i58o-28 7cjc-24",
     "f4co-28 b8jc-24 bnwo-28 aszc-24 bnwo-28 b8jc-24 b8co-28 b8jc-24 b8co-28 b8jc-24 b8co-28",
     "b8jc-24 b8co-28 b8jc-24 bnwo-28 aszc-24 bnwo-28 b8jc-24 b8co-28 b8jc-24 b8co-28 b8jc-24",
     "b8co-28 9xvc-24 cj0o-28 9xvc-24 cyko-28 9ibc-24 cyko-28 9ibc-24 cyko-28 9xvc-24 cj0o-28",
     "9xvc-24 cj0o-28 9xvc-24 cyko-28 9ibc-24 cyko-28 9ibc-24 cyko-28 9xvc-24 cj0o-28 9xvc-24",
     "cj0o-28 9xvc-24 cj0o-28 9xvc-24 cyko-28 9ibc-24 cyko-28 9ibc-24 cyko-28 9xvc-24 cj0o-28",
     "9xvc-24 cj0o-28 9xvc-24 cyko-28 9ibc-24 cyko-28 9ibc-24 cyko-28 87nc-24 eoso-28 7s3c-24",
     "eoso-28 7s3c-24 eoso-28 87nc-24 mgso-20"],
    some ⟨-21600, -18000, ⟨3, 2, 0, 7200⟩, ⟨11, 1, 0, 7200⟩⟩⟩,
  ⟨["America/North_Dakota/Center"], -25200,
    ["78u0-24 b8co-28 b8jc-24 bnwo-28 b8jc-24 b8co-28 b8jc-24 b8co-28 4bnc-24 i58o-28 7cjc-24",
     "f4co-28 b8jc-24 bnwo-28 aszc-24 bnwo-28 b8jc-24 b8co-28 b8jc-24 b8co-28 b8jc-24 b8co-28",
     "b8jc-24 b8co-28 b8jc-24 bnwo-28 aszc-24 bnwo-28 b8jc-24 b8co-28 b8jc-24 b8co-28 b8jc-24",
     "b8co-28 9xvc-24 cj0o-28 9xvc-24 cyko-28 9ibc-24 cyko-28 9ibc-24 cyko-28 9xvc-24 cj0o-28",
     "9xvc-24 mgso-20 cyko-24 9ibc-20 cyko-24 9ibc-20 cyko-24 9xvc-20 cj0o-24 9xvc-20 cj0o-24",
     "9xvc-20 cj0o-24 9xvc-20 cyko-24 9ibc-20 cyko-24 9ibc-20 cyko-24 9xvc-20 cj0o-24 9xvc-20",
     "cj0o-24 9xvc-20 cyko-24 9ibc-20 cyko-24 9ibc-20 cyko-24 87nc-20"],
    some ⟨-21600, -18000, ⟨3, 2, 0, 7200⟩, ⟨11, 1, 0, 7200⟩⟩⟩,
  ⟨["America/North_Dakota/New_Salem"], -25200,
    ["78u0-24 b8co-28 b8jc-24 bnwo-28 b8jc-24 b8co-28 b8jc-24 b8co-28 4bnc-24 i58o-28 7cjc-24",
     "f4co-28 b8jc-24 bnwo-28 aszc-24 bnwo-28 b8jc-24 b8co-28 b8jc-24 b8co-28 b8jc-24 b8co-28",
     "b8jc-24 b8co-28 b8jc-24 bnwo-28 aszc-24 bnwo-28 b8jc-24 b8co-28 b8jc-24 b8co-28 b8jc-24",
     "b8co-28 9xvc-24 cj0o-28 9xvc-24 cyko-28 9ibc-24 cyko-28 9ibc-24 cyko-28 9xvc-24 cj0o-28",
     "9xvc-24 cj0o-28 9xvc-24 cyko-28 9ibc-24 cyko-28 9ibc-24 cyko-28 9xvc-24 cj0o-28 9xvc-24",
     "cj0o-28 9xvc-24 cj0o-28 9xvc-24 cyko-28 9ibc-24 cyko-28 9ibc-24 cyko-28 9xvc-24 cj0o-28",
     "9xvc-24 mgso-20 cyko-24 9ibc-20 cyko-24 9ibc-20 cyko-24 87nc-20"],
    some ⟨-21600, -18000, ⟨3, 2, 0, 7200⟩, ⟨11, 1, 0, 7200⟩⟩⟩,
  ⟨["America/Nuuk"], -10800,
    ["6fhso-8 asio-12 b8g0-8 b8g0-12 b8g0-8 b8g0-12 b8g0-8 b8g0-12 b8g0-8 bo00-12 b8g0-8 b8g0-12",
     "b8g0-8 b8g0-12 b8g0-8 b8g0-12 b8g0-8 b8g0-12 b8g0-8 b8g0-12 b8g0-8 bo00-12 b8g0-8 b8g0-12",
     "b8g0-8 b8g0-12 b8g0-8 b8g0-12 b8g0-8 b8g0-12 b8g0-8 b8g0-12 bo00-8 cyo0-12 9i80-8 cyo0-12",
     "9i80-8 cyo0-12 9i80-8 de80-12 92o0-8 de80-12 92o0-8 de80-12 9i80-8 cyo0-12 9i80-8 cyo0-12",
     "9i80-8 de80-12 92o0-8 de80-12 92o0-8 de80-12 92o0-8 de80-12 9i80-8 cyo0-12 9i80-8 cyo0-12",
     "9i80-8 de80-12 92o0-8 de80-12 92o0-8 de80-12 9i80-8 cyo0-12 9i80-8 cyo0-12 9i80-8 cyo0-12",
     "9i80-8 de80-12 92o0-8 de80-12 92o0-8 de80-12 9i80-8 cyo0-12 9i80-8 cyo0-12 9i80-8 de80-12",
     "92o0-8 de80-12 92o0-8 mwg0-4"],
    some ⟨-7200, -3600, ⟨3, 5, 0, -3600⟩, ⟨10, 5, 0, 0⟩⟩⟩,
  ⟨["America/Ojinaga"], -21600,
    ["ggayo-20 cj0o-24 9xvc-20 cj0o-24 mgzc-28 9xvc-24 cyko-28 9ibc-24 cyko-28 bo3c-24 92ko-28",
     "bo3c-24 cj0o-28 9xvc-24 cj0o-28 9xvc-24 cyko-28 9ibc-24 cyko-28 9ibc-24 cyko-28 9ibc-24",
     "cyko-28 9xvc-24 cj0o-28 9xvc-24 cj0o-28 8n7c-24 eoso-28 7s3c-24 eoso-28 7s3c-24 eoso-28",
     "7s3c-24 eoso-28 7s3c-24 eoso-28 7s3c-24 eoso-28 87nc-24 eoso-28 7s3c-24 eoso-28 7s3c-24",
     "eoso-28 7s3c-24 eoso-28 7s3c-24 eoso-28 87nc-24 eoso-28 7s3c-24 mgso-20"],
    some ⟨-21600, -18000, ⟨3, 2, 0, 7200⟩, ⟨11, 1, 0, 7200⟩⟩⟩,
  ⟨["America/Paramaribo"], -12600,
    ["98nvo-12"], none⟩,
  ⟨["America/Port-au-Prince"], -18000,
    ["8d28o-16 asso-20 b8jc-16 b8co-20 b8jc-16 b8co-20 b8jc-16 b8co-20 b8jc-16 b8co-20 9xyo-16",
     "cyo0-20 9i80-16 cyo0-20 9i80-16 cyo0-20 9xs0-16 cj40-20 9xs0-16 cj40-20 9xs0-16 cyo0-20",
     "9i80-16 cyo0-20 9i80-16 cyo0-20 9xs0-16 cj40-20 9xs0-16 cj40-20 4nngo-16 cyko-20 9ibc-16",
     "cyko-20 3czu0-16 eoso-20 7s3c-16 eoso-20 7s3c-16 eoso-20 7s3c-16 eoso-20 uojc-16"],
    some ⟨-18000, -14400, ⟨3, 2, 0, 7200⟩, ⟨11, 1, 0, 7200⟩⟩⟩,
  ⟨["America/Porto_Acre", "America/Rio_Branco"], -18000,
    ["9x68o-16 87go-20 dtvc-16 6wso-20 fmbc-16 6h8o-20 crg3c-16 3dako-20"], none⟩,
  ⟨["America/Porto_Velho"], -14400,
    ["9x65c-12 87go-16 dtvc-12 6wso-16 fmbc-12 6h8o-16"], none⟩,
  ⟨["America/Punta_Arenas"], -10800,
    ["5i20-16 c3nc-12 9i4o-16 cyrc-12 9i4o-16 debc-12 92ko-16 cj7c-12 9xoo-16 debc-12 92ko-16",
     "debc-12 9i4o-16 cyrc-12 9i4o-16 cyrc-12 9i4o-16 debc-12 92ko-16 debc-12 92ko-16 debc-12",
     "9i4o-16 cyrc-12 9i4o-16 cyrc-12 9i4o-16 cyrc-12 9i4o-16 debc-12 92ko-16 debc-12 92ko-16",
     "debc-12 b8co-16 b8jc-12 9i4o-16 cyrc-12 9i4o-16 debc-12 92ko-16 bo3c-12 asso-16 debc-12",
     "9i4o-16 cyrc-12 9i4o-16 cyrc-12 9i4o-16 cyrc-12 9i4o-16 debc-12 92ko-16 debc-12 ad8o-16",
     "c3nc-12 9i4o-16 c3nc-12 bnwo-16 bo3c-12 9i4o-16 debc-12 92ko-16 debc-12 92ko-16 debc-12",
     "92ko-16 debc-12 9i4o-16 cyrc-12 9i4o-16 cyrc-12 9i4o-16 debc-12 92ko-16 debc-12 ad8o-16",
     "c3nc-12 9i4o-16 cyrc-12 asso-16 bo3c-12 cyko-16 6hfc-12 fjwo-16 7s3c-12 eoso-16 87nc-12",
     "e98o-16 87nc-12 120so-16 5mbc-12"], none⟩,
  ⟨["America/Rainy_River", "America/Winnipeg"], -21600,
    ["78qo-20 b8g0-24 b8g0-20 bo00-24 b8g0-20 b8g0-24 b8g0-20 b8g0-24 b8g0-20 b8g0-24 b8g0-20",
     "b8g0-24 b8g0-20 bo00-24 asw0-20 bo00-24 b8g0-20 b8g0-24 b8g0-20 b8g0-24 b8g0-20 b8g0-24",
     "b8g0-20 b8g0-24 b8g0-20 bo00-24 asw0-20 bo00-24 b8g0-20 b8g0-24 b8g0-20 b8g0-24 b8g0-20",
     "b8g0-24 9xs0-20 cj40-24 9xs0-20 cyo0-24 9i80-20 cyo0-24 9i80-20 cyo0-24 9xs0-20 cj40-24",
     "9xs0-20 cj40-24 9xs0-20 cyo0-24 9i80-20 cyo0-24 9i80-20 cyo0-24 9xs0-20 cj40-24 9xs0-20",
     "cj40-24 9xs0-20 cj40-24 9xs0-20 cyo0-24 9i80-20 cyo0-24 9i80-20 cyo0-24 9xs0-20 cj40-24",
     "9xs0-20 cj40-24 9xs0-20 cyo0-24 9i80-20 cyo0-24 9i80-20 cyko-24 87nc-20"],
    some ⟨-21600, -18000, ⟨3, 2, 0, 7200⟩, ⟨11, 1, 0, 7200⟩⟩⟩,
  ⟨["America/Rankin_Inlet"], -21600,
    ["1gm2o-20 b8co-24 b8jc-20 b8co-24 b8jc-20 b8co-24 b8jc-20 b8co-24 b8jc-20 bnwo-24 aszc-20",
     "bnwo-24 b8jc-20 b8co-24 b8jc-20 b8co-24 b8jc-20 b8co-24 b8jc-20 b8co-24 b8jc-20 bnwo-24",
     "aszc-20 bnwo-24 b8jc-20 b8co-24 b8jc-20 b8co-24 b8jc-20 b8co-24 9xvc-20 cj0o-24 9xvc-20",
     "cyko-24 9ibc-20 cyko-24 9ibc-20 cyko-24 9xvc-20 cj0o-24 9xvc-20 cj0o-24 9xvc-20 cyko-24",
     "9ibc-20 cyko-24 9ibc-20 cyko-24 9xvc-20 cj0o-24 9xvc-20 cj0o-24 9xvc-20 cj0o-24 9xvc-20",
     "cyko-24 9ibc-20 zfgo-24 9xvc-20 cj0o-24 9xvc-20 cj0o-24 9xvc-20 cyko-24 9ibc-20 cyko-24",
     "9ibc-20 cyko-24 87nc-20"],
    some ⟨-21600, -18000, ⟨3, 2, 0, 7200⟩, ⟨11, 1, 0, 7200⟩⟩⟩,
  ⟨["America/Recife"], -10800,
    ["9x620-8 87go-12 dtvc-8 6wso-12 fmbc-8 6h8o-12 fk3c-8 6h8o-12 fznc-8 7cco-12 61cjc-8 92ko-12",
     "dtvc-8 fgo-12 mgzc-8 7rwo-12"], none⟩,
  ⟨["America/Regina", "Etc/GMT+6"], -21600, [], none⟩,
  ⟨["America/Resolute"], -21600,
    ["1gm2o-20 b8co-24 b8jc-20 b8co-24 b8jc-20 b8co-24 b8jc-20 b8co-24 b8jc-20 bnwo-24 aszc-20",
     "bnwo-24 b8jc-20 b8co-24 b8jc-20 b8co-24 b8jc-20 b8co-24 b8jc-20 b8co-24 b8jc-20 bnwo-24",
     "aszc-20 bnwo-24 b8jc-20 b8co-24 b8jc-20 b8co-24 b8jc-20 b8co-24 9xvc-20 cj0o-24 9xvc-20",
     "cyko-24 9ibc-20 cyko-24 9ibc-20 cyko-24 9xvc-20 cj0o-24 9xvc-20 cj0o-24 9xvc-20 cyko-24",
     "9ibc-20 cyko-24 9ibc-20 cyko-24 9xvc-20 cj0o-24 9xvc-20 cj0o-24 9xvc-20 cj0o-24 9xvc-20",
     "cyko-24 9ibc-20 zfgo-24 9xvc-20 cj0o-24 9xvc-20 cj0o-24 9xvc-20 cyko-24 9ibc-20 cyko-24",
     "9ibc-20 zv0o-24"],
    some ⟨-21600, -18000, ⟨3, 2, 0, 7200⟩, ⟨11, 1, 0, 7200⟩⟩⟩,
  ⟨["America/Santarem"], -14400,
    ["9x65c-12 87go-16 dtvc-12 6wso-16 fmbc-12 6h8o-16 crg3c-12"], none⟩,
  ⟨["America/Santiago"], -10800,
    ["5i20-16 c3nc-12 9i4o-16 cyrc-12 9i4o-16 debc-12 92ko-16 cj7c-12 9xoo-16 debc-12 92ko-16",
     "debc-12 9i4o-16 cyrc-12 9i4o-16 cyrc-12 9i4o-16 debc-12 92ko-16 debc-12 92ko-16 debc-12",
     "9i4o-16 cyrc-12 9i4o-16 cyrc-12 9i4o-16 cyrc-12 9i4o-16 debc-12 92ko-16 debc-12 92ko-16",
     "debc-12 b8co-16 b8jc-12 9i4o-16 cyrc-12 9i4o-16 debc-12 92ko-16 bo3c-12 asso-16 debc-12",
     "9i4o-16 cyrc-12 9i4o-16 cyrc-12 9i4o-16 cyrc-12 9i4o-16 debc-12 92ko-16 debc-12 ad8o-16",
     "c3nc-12 9i4o-16 c3nc-12 bnwo-16 bo3c-12 9i4o-16 debc-12 92ko-16 debc-12 92ko-16 debc-12",
     "92ko-16 debc-12 9i4o-16 cyrc-12 9i4o-16 cyrc-12 9i4o-16 debc-12 92ko-16 debc-12 ad8o-16",
     "c3nc-12 9i4o-16 cyrc-12 asso-16 bo3c-12 cyko-16 6hfc-12 fjwo-16 7s3c-12 eoso-16 87nc-12",
     "e98o-16 87nc-12 120so-16 5mbc-12 guko-16 5mbc-12 guko-16 5mbc-12 eoso-16 9ibc-12 cyko-16",
     "9ibc-12 cyko-16 9ibc-12 cyko-16 9xvc-12 cj0o-16"],
    some ⟨-14400, -10800, ⟨9, 1, 6, 86400⟩, ⟨4, 1, 6, 86400⟩⟩⟩,
  ⟨["America/Santo_Domingo"], -16200,
    ["3a70-20 f6po-18 5dac-20 hj5o-18 526c-20 hepo-18 56mc-20 ha9o-18 58uc-20 h81o-16 gaczc-20",
     "25s0-16"], none⟩,
  ⟨["America/Sao_Paulo"], -10800,
    ["9x620-8 87go-12 dtvc-8 6wso-12 fmbc-8 6h8o-12 fk3c-8 6h8o-12 fznc-8 7cco-12 fk3c-8 7cco-12",
     "f4jc-8 6wso-12 fznc-8 61oo-12 fznc-8 7rwo-12 eozc-8 7rwo-12 eozc-8 7cco-12 eozc-8 87go-12",
     "ebnc-8 90co-12 dtvc-8 87go-12 dtvc-8 92ko-12 dtvc-8 87go-12 eozc-8 7rwo-12 fznc-8 6h8o-12",
     "f4jc-8 7cco-12 g43c-8 6sco-12 eozc-8 7rwo-12 fznc-8 6wso-12 e9fc-8 7rwo-12 f4jc-8 7cco-12",
     "f4jc-8 7rwo-12 eozc-8 7rwo-12 eozc-8 87go-12 eozc-8 7cco-12 f4jc-8 7cco-12 f4jc-8 7rwo-12",
     "eozc-8 7rwo-12 eozc-8 7rwo-12 eozc-8 7rwo-12 fznc-8 6h8o-12"], none⟩,
  ⟨["America/Scoresbysund"], -7200,
    ["6fhpc-4 asw0-8 b89c+0 b8co-4 b8g0+0 b8g0-4 b8g0+0 b8g0-4 b8g0+0 bo00-4 b8g0+0 b8g0-4 b8g0+0",
     "b8g0-4 b8g0+0 b8g0-4 b8g0+0 b8g0-4 b8g0+0 b8g0-4 b8g0+0 bo00-4 b8g0+0 b8g0-4 b8g0+0 b8g0-4",
     "b8g0+0 b8g0-4 b8g0+0 b8g0-4 b8g0+0 b8g0-4 bo00+0 cyo0-4 9i80+0 cyo0-4 9i80+0 cyo0-4 9i80+0",
     "de80-4 92o0+0 de80-4 92o0+0 de80-4 9i80+0 cyo0-4 9i80+0 cyo0-4 9i80+0 de80-4 92o0+0 de80-4",
     "92o0+0 de80-4 92o0+0 de80-4 9i80+0 cyo0-4 9i80+0 cyo0-4 9i80+0 de80-4 92o0+0 de80-4 92o0+0",
     "de80-4 9i80+0 cyo0-4 9i80+0 cyo0-4 9i80+0 cyo0-4 9i80+0 de80-4 92o0+0 de80-4 92o0+0 de80-4",
     "9i80+0 cyo0-4 9i80+0 cyo0-4 9i80+0 de80-4 92o0+0 de80-4 92o0+0 de80-4 mgw0-8"],
    some ⟨-7200, -3600, ⟨3, 5, 0, -3600⟩, ⟨10, 5, 0, 0⟩⟩⟩,
  ⟨["America/Sitka"], -28800,
    ["78xc-28 b8co-32 b8jc-28 bnwo-32 b8jc-28 b8co-32 b8jc-28 b8co-32 4bnc-28 i58o-32 7cjc-28",
     "f4co-32 b8jc-28 bnwo-32 aszc-28 bnwo-32 b8jc-28 b8co-32 b8jc-28 b8co-32 b8jc-28 b8co-32",
     "b8jc-28 b8co-32 b8jc-28 bnwo-32 aszc-28 bnwo-36 b8mo-32 b8co-36 b8jc-32 b8co-36 b8jc-32",
     "b8co-36 9xvc-32 cj0o-36 9xvc-32 cyko-36 9ibc-32 cyko-36 9ibc-32 cyko-36 9xvc-32 cj0o-36",
     "9xvc-32 cj0o-36 9xvc-32 cyko-36 9ibc-32 cyko-36 9ibc-32 cyko-36 9xvc-32 cj0o-36 9xvc-32",
     "cj0o-36 9xvc-32 cj0o-36 9xvc-32 cyko-36 9ibc-32 cyko-36 9ibc-32 cyko-36 9xvc-32 cj0o-36",
     "9xvc-32 cj0o-36 9xvc-32 cyko-36 9ibc-32 cyko-36 9ibc-32 cyko-36 87nc-32"],
    some ⟨-32400, -28800, ⟨3, 2, 0, 7200⟩, ⟨11, 1, 0, 7200⟩⟩⟩,
  ⟨["America/St_Johns"], -12600,
    ["78ic-10 b8co-14 b8jc-10 bnwo-14 b8jc-10 b8co-14 b8jc-10 b8co-14 b8jc-10 b8co-14 b8jc-10",
     "b8co-14 b8jc-10 bnwo-14 aszc-10 bnwo-14 b8jc-10 b8co-14 b8jc-10 b8co-14 b8jc-10 b8co-14",
     "b8jc-10 b8co-14 b8jc-10 bnwo-14 aszc-10 bnwo-14 b8jc-10 b8co-14 b8jc-10 b8co-14 b8jc-10",
     "b8co-14 9xoq-10 cj0o-14 9xvc-6 cyhc-14 9ieo-10 cyko-14 9ibc-10 cyko-14 9xvc-10 cj0o-14",
     "9xvc-10 cj0o-14 9xvc-10 cyko-14 9ibc-10 cyko-14 9ibc-10 cyko-14 9xvc-10 cj0o-14 9xvc-10",
     "cj0o-14 9xvc-10 cj0o-14 9xvc-10 cyko-14 9ibc-10 cyko-14 9ibc-10 cyko-14 9xvc-10 cj0o-14",
     "9xvc-10 cj0o-14 9xvc-10 cyko-14 9ibc-10 cyko-14 9ibc-10 cyko-14 87nc-10 eoso-14 7s3c-10",
     "eoso-14 7s3c-10 eoso-14 87nc-10 eoso-14 7s3c-10 eoza-14"],
    some ⟨-12600, -9000, ⟨3, 2, 0, 7200⟩, ⟨11, 1, 0, 7200⟩⟩⟩,
  ⟨["America/Swift_Current"], -25200,
    ["1gm60-24"], none⟩,
  ⟨["America/Tegucigalpa"], -21600,
    ["auxw0-20 92ko-24 debc-20 92ko-24 b13nc-20 5oco-24"], none⟩,
  ⟨["America/Thule"], -14400,
    ["db380-12 b8co-16 b8jc-12 b8co-16 bo3c-12 cyko-16 9ibc-12 cyko-16 9ibc-12 cyko-16 9xvc-12",
     "cj0o-16 9xvc-12 cj0o-16 9xvc-12 cj0o-16 9xvc-12 cyko-16 9ibc-12 cyko-16 9ibc-12 cyko-16",
     "9xvc-12 cj0o-16 9xvc-12 cj0o-16 9xvc-12 cyko-16 9ibc-12 cyko-16 9ibc-12 cyko-16 87nc-12"],
    some ⟨-14400, -10800, ⟨3, 2, 0, 7200⟩, ⟨11, 1, 0, 7200⟩⟩⟩,
  ⟨["America/Vancouver"], -28800,
    ["78xc-28 b8co-32 b8jc-28 bnwo-32 b8jc-28 b8co-32 b8jc-28 b8co-32 b8jc-28 b8co-32 b8jc-28",
     "b8co-32 b8jc-28 bnwo-32 aszc-28 bnwo-32 b8jc-28 b8co-32 b8jc-28 b8co-32 b8jc-28 b8co-32",
     "b8jc-28 b8co-32 b8jc-28 bnwo-32 aszc-28 bnwo-32 b8jc-28 b8co-32 b8jc-28 b8co-32 b8jc-28",
     "b8co-32 9xvc-28 cj0o-32 9xvc-28 cyko-32 9ibc-28 cyko-32 9ibc-28 cyko-32 9xvc-28 cj0o-32",
     "9xvc-28 cj0o-32 9xvc-28 cyko-32 9ibc-28 cyko-32 9ibc-28 cyko-32 9xvc-28 cj0o-32 9xvc-28",
     "cj0o-32 9xvc-28 cj0o-32 9xvc-28 cyko-32 9ibc-28 cyko-32 9ibc-28 cyko-32 9xvc-28 cj0o-32",
     "9xvc-28 cj0o-32 9xvc-28 cyko-32 9ibc-28 cyko-32 9ibc-28 cyko-32 87nc-28"],
    some ⟨-28800, -25200, ⟨3, 2, 0, 7200⟩, ⟨11, 1, 0, 7200⟩⟩⟩,
  ⟨["America/Whitehorse"], -28800,
    ["6gsxc-28 b8co-32 b8jc-28 b8co-32 b8jc-28 bnwo-32 aszc-28 bnwo-32 b8jc-28 b8co-32 b8jc-28",
     "b8co-32 b8jc-28 b8co-32 9xvc-28 cj0o-32 9xvc-28 cyko-32 9ibc-28 cyko-32 9ibc-28 cyko-32",
     "9xvc-28 cj0o-32 9xvc-28 cj0o-32 9xvc-28 cyko-32 9ibc-28 cyko-32 9ibc-28 cyko-32 9xvc-28",
     "cj0o-32 9xvc-28 cj0o-32 9xvc-28 cj0o-32 9xvc-28 cyko-32 9ibc-28 cyko-32 9ibc-28 cyko-32",
     "9xvc-28 cj0o-32 9xvc-28 cj0o-32 9xvc-28 cyko-32 9ibc-28 cyko-32 9ibc-28 cyko-32 87nc-28",
     "eoso-32 7s3c-28 eoso-32 7s3c-28 eoso-32 87nc-28 eoso-32 7s3c-28 eoso-32 7s3c-28 eoso-32",
     "7s3c-28 eoso-32 7s3c-28 eoso-32 7s3c-28 eoso-32 87nc-28 eoso-32 7s3c-28 eoso-32 7s3c-28",
     "eoso-32 7s3c-28 eoso-32 7s3c-28"], none⟩,
  ⟨["America/Yakutat"], -32400,
    ["790o-32 b8co-36 b8jc-32 bnwo-36 b8jc-32 b8co-36 b8jc-32 b8co-36 4bnc-32 i58o-36 7cjc-32",
     "f4co-36 b8jc-32 bnwo-36 aszc-32 bnwo-36 b8jc-32 b8co-36 b8jc-32 b8co-36 b8jc-32 b8co-36",
     "b8jc-32 b8co-36 b8jc-32 bnwo-36 aszc-32 bnwo-36 b8jc-32 b8co-36 b8jc-32 b8co-36 b8jc-32",
     "b8co-36 9xvc-32 cj0o-36 9xvc-32 cyko-36 9ibc-32 cyko-36 9ibc-32 cyko-36 9xvc-32 cj0o-36",
     "9xvc-32 cj0o-36 9xvc-32 cyko-36 9ibc-32 cyko-36 9ibc-32 cyko-36 9xvc-32 cj0o-36 9xvc-32",
     "cj0o-36 9xvc-32 cj0o-36 9xvc-32 cyko-36 9ibc-32 cyko-36 9ibc-32 cyko-36 9xvc-32 cj0o-36",
     "9xvc-32 cj0o-36 9xvc-32 cyko-36 9ibc-32 cyko-36 9ibc-32 cyko-36 87nc-32"],
    some ⟨-32400, -28800, ⟨3, 2, 0, 7200⟩, ⟨11, 1, 0, 7200⟩⟩⟩]

end Automation.Time.Zone
