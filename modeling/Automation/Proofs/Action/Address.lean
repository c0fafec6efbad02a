import Automation.Proofs.Action.Defects
import Automation.Proofs.Template.Cut

/-!
# Addresses that requests can be sent to

An address of the web is a scheme, a colon, two slashes, a host part and a rest. Which texts pass as
such addresses, which are turned down, and which cannot even be cut, follows from where the host part
stands (`Check.url_eq_ok`, `Check.url_eq_failure`, `Check.url_eq_uncut`). A request to a text that is
no such address is not planned.
-/

namespace Automation

/-! ## Parts of addresses -/

namespace Url

variable {cs scheme host rest : List Char} {url : String} {fault : Fault} {parts : Parts}

/-- The characters of an address that count: all from the first that is no blank and no control
character on, but for tabs and line breaks. -/
def counted (url : String) : List Char :=
  (url.toList.dropWhile fun c => c.toNat ≤ 32).filter fun c => c != '\t' && c != '\n' && c != '\r'

/-- Characters that can name a scheme. -/
def IsScheme (cs : List Char) : Prop :=
  cs.head?.any Text.isLatinLetter = true ∧ ∀ c ∈ cs, isSchemeChar c = true

/-- A character that may be in a host part: no slash, no question mark and no number sign. -/
def isHostChar (c : Char) : Bool := c != '/' && c != '?' && c != '#'

/-- A host part and what follows it. -/
structure EndsHost (host rest : List Char) : Prop where
  host : ∀ c ∈ host, isHostChar c = true
  rest : ∀ c ∈ rest.head?, isHostChar c = false

/-- Some characters have a host part behind two slashes, and there is a scheme in front, in small
letters, or nothing. -/
inductive Hosts : List Char → List Char → List Char → Prop where
  | bare {host rest : List Char} (h : EndsHost host rest) :
      Hosts ('/' :: '/' :: (host ++ rest)) [] host
  | behind {name host rest : List Char} (hname : IsScheme name) (h : EndsHost host rest) :
      Hosts (name ++ ':' :: '/' :: '/' :: (host ++ rest)) (name.map Char.toLower) host

/-- Some characters cannot be cut, for the fault of their host part. -/
def Uncut (url : String) (fault : Fault) : Prop :=
  ∃ scheme host, Hosts (counted url) scheme host ∧ checkHost host = .error fault

/-- A text is an address that a request can be sent to: it has no blank, and in front of a host part
that is in order there is one of the two schemes. -/
def IsUsable (url : String) : Prop :=
  ' ' ∉ url.toList ∧ ∃ scheme host, Hosts (counted url) scheme host ∧
    (scheme = "http".toList ∨ scheme = "https".toList) ∧ host ≠ [] ∧ checkHost host = .ok ()

theorem takeHost_eq_iff (hne : host ≠ []) :
    takeHost cs = host ↔ ∃ rest, cs = '/' :: '/' :: (host ++ rest) ∧ EndsHost host rest := by
  constructor
  · intro h
    unfold takeHost at h
    split at h <;> rename_i text
    · refine ⟨text.dropWhile isHostChar, ?_, ?_, fun c hc => ?_⟩
      · rw [← h]
        exact congrArg (fun cs => '/' :: '/' :: cs) List.takeWhile_append_dropWhile.symm
      · rw [← h]
        exact fun c => List.mem_takeWhile_imp
      · have := List.head?_dropWhile_not isHostChar text
        rw [Option.mem_def.mp hc] at this
        simpa using this
    · exact absurd h.symm hne
  · rintro ⟨rest, rfl, hends⟩
    exact (Template.takeWhile_run hends.host hends.rest).1

theorem IsScheme.takeScheme (h : IsScheme cs) (rest : List Char) :
    takeScheme (cs ++ ':' :: rest) = (cs.map Char.toLower, rest) := by
  have hcolon : ∀ c ∈ cs, (c != ':') = true := by
    intro c hc
    rw [bne_iff_ne]
    rintro rfl
    exact absurd (h.2 _ hc) (by decide)
  have htaken : (cs ++ ':' :: rest).takeWhile (· != ':') = cs :=
    (Template.takeWhile_run hcolon (by simp)).1
  unfold Url.takeScheme
  dsimp only
  rw [htaken, if_pos]
  · simp
  · have hall : cs.all isSchemeChar = true := List.all_eq_true.mpr h.2
    simp [h.1, hall]

/-- The scheme in front is that of a name and a colon, or there is none. -/
theorem takeScheme_cases (cs : List Char) :
    (∃ name rest, IsScheme name ∧ cs = name ++ ':' :: rest) ∨ takeScheme cs = ([], cs) := by
  unfold takeScheme
  dsimp only
  split <;> rename_i h
  · rw [Bool.and_eq_true, Bool.and_eq_true, decide_eq_true_eq] at h
    obtain ⟨⟨hlength, hletter⟩, hall⟩ := h
    have hsplit : cs = cs.takeWhile (· != ':') ++ cs.dropWhile (· != ':') :=
      List.takeWhile_append_dropWhile.symm
    have hstop := List.head?_dropWhile_not (· != ':') cs
    cases hrest : cs.dropWhile (· != ':') with
    | nil =>
      rw [hrest, List.append_nil] at hsplit
      rw [← hsplit] at hlength
      exact absurd hlength (Nat.lt_irrefl _)
    | cons c rest =>
      rw [hrest] at hstop
      obtain rfl : c = ':' := by simpa using hstop
      rw [hrest] at hsplit
      exact .inl ⟨_, rest, ⟨hletter, List.all_eq_true.mp hall⟩, hsplit⟩
  · exact .inr rfl

/-- A slash begins no scheme. -/
theorem takeScheme_slash (rest : List Char) : takeScheme ('/' :: rest) = ([], '/' :: rest) := by
  have hslash : Text.isLatinLetter '/' = false := by decide
  simp [takeScheme, hslash]

/-- A host part that is there is the one that is cut off. -/
theorem hosts_iff (hne : host ≠ []) : Hosts cs scheme host ↔
    (takeScheme cs).1 = scheme ∧ takeHost (takeScheme cs).2 = host := by
  rw [takeHost_eq_iff hne]
  constructor
  · rintro (⟨hends⟩ | ⟨hname, hends⟩)
    · rw [takeScheme_slash]
      exact ⟨rfl, _, rfl, hends⟩
    · rw [hname.takeScheme]
      exact ⟨rfl, _, rfl, hends⟩
  · rintro ⟨rfl, rest, hrest, hends⟩
    rcases takeScheme_cases cs with ⟨name, tail, hname, rfl⟩ | hnone
    · rw [hname.takeScheme] at hrest ⊢
      dsimp only at hrest ⊢
      rw [hrest]
      exact .behind hname hends
    · rw [hnone] at hrest ⊢
      dsimp only at hrest ⊢
      rw [hrest]
      exact .bare hends

theorem cut_eq (url : String) : cut url = (do
    checkHost (takeHost (takeScheme (counted url)).2)
    return ⟨(takeScheme (counted url)).1, takeHost (takeScheme (counted url)).2⟩) := rfl

theorem cut_eq_error : cut url = .error fault ↔ Uncut url fault := by
  rw [cut_eq, Except.bind_eq_error, or_iff_left (by rintro ⟨_, -, ⟨⟩⟩)]
  unfold Uncut
  constructor
  · intro h
    have hne : takeHost (takeScheme (counted url)).2 ≠ [] := by
      intro hnil
      rw [hnil] at h
      cases h
    exact ⟨_, _, (hosts_iff hne).mpr ⟨rfl, rfl⟩, h⟩
  · rintro ⟨scheme, host, hhosts, h⟩
    have hne : host ≠ [] := by
      rintro rfl
      cases h
    obtain ⟨-, rfl⟩ := (hosts_iff hne).mp hhosts
    exact h

/-- What cannot be cut has a square bracket, or a character that stands for a delimiter. -/
theorem Uncut.exists_odd (h : Uncut url fault) :
    ∃ c ∈ counted url, c = '[' ∨ c = ']' ∨ c.toNat ∈ disguises := by
  obtain ⟨scheme, host, hhosts, hfault⟩ := h
  have hsub : host ⊆ counted url := by
    generalize counted url = cs at hhosts
    cases hhosts <;> intro c hc <;> simp [hc]
  by_contra hnone
  have hodd : ∀ c ∈ host, ¬(c = '[' ∨ c = ']' ∨ c.toNat ∈ disguises) :=
    fun c hc h => hnone ⟨c, hsub hc, h⟩
  have hopen : host.contains '[' = false := by
    simpa using fun h => hodd _ h (.inl rfl)
  have hclose : host.contains ']' = false := by
    simpa using fun h => hodd _ h (.inr (.inl rfl))
  have hplain : (host.any fun c => disguises.contains c.toNat) = false := by
    simpa using fun c hc h => hodd c hc (.inr (.inr h))
  unfold checkHost at hfault
  rw [hopen, hclose, hplain] at hfault
  cases hfault

/-- An address that a request can be sent to is one that can be cut into parts that can be used. -/
theorem isUsable_iff : IsUsable url ↔ ∃ parts, cut url = .ok parts ∧ usable url parts = true := by
  have husable {parts : Parts} : usable url parts = true ↔ ' ' ∉ url.toList ∧
      (parts.scheme = "http".toList ∨ parts.scheme = "https".toList) ∧ parts.host ≠ [] := by
    simp [usable, and_comm]
  simp only [husable, cut_eq]
  constructor
  · rintro ⟨hblank, scheme, host, hhosts, hscheme, hne, h⟩
    obtain ⟨rfl, rfl⟩ := (hosts_iff hne).mp hhosts
    exact ⟨_, by rw [h]; rfl, hblank, hscheme, hne⟩
  · rintro ⟨parts, hcut, hblank, hscheme, hne⟩
    obtain ⟨⟨⟩, h, ⟨⟩⟩ := Except.bind_eq_ok.mp hcut
    exact ⟨hblank, _, _, (hosts_iff hne).mpr ⟨rfl, rfl⟩, hscheme, hne, h⟩

end Url

/-! ## The check of an address -/

namespace Check

variable {kind s : String}

/-- What passes is the text without white space around it, if a request can be sent to it. -/
theorem url_eq_ok {v : String} :
    url kind s = .ok v ↔ v = Text.strip s ∧ Url.IsUsable (Text.strip s) := by
  rw [Url.isUsable_iff]
  unfold url
  dsimp only
  cases Url.cut (Text.strip s) with
  | error fault => simp
  | ok parts => by_cases h : Url.usable (Text.strip s) parts = true <;> simp [h, @eq_comm _ v]

/-- What cannot be cut is not classified. -/
theorem url_eq_uncut {d : Defect} : url kind s = .error (.defect d) ↔
    ∃ fault, Url.Uncut (Text.strip s) fault ∧ d = .url fault := by
  simp only [url_eq_defect, Url.cut_eq_error]

/-- What can be cut, but is no address that a request can be sent to, is fatal. -/
theorem url_eq_failure {f : Failure} : url kind s = .error (.failure f) ↔
    f = ⟨.fatal, kind, s!"Malformed URL '{Text.strip s}'"⟩ ∧ ¬Url.IsUsable (Text.strip s) ∧
      ∀ fault, ¬Url.Uncut (Text.strip s) fault := by
  simp only [Url.isUsable_iff, ← Url.cut_eq_error]
  unfold url
  dsimp only
  cases Url.cut (Text.strip s) with
  | error fault => simp
  | ok parts =>
    by_cases h : Url.usable (Text.strip s) parts = true <;> simp [h, Fault.fatal, @eq_comm _ f]

end Check

/-! ## Requests -/

namespace Action

variable {a : Action} {nodeId s : String} {c : Context} {places : Places} {origin : Int}
  {policy : RetryPolicy} {timeout : Float} {t : List Exchange} {r : Except Fault (Entries Value)}
  {fault : Fault} {count : Nat}

/-- The address of an action that is a request to one. -/
def address? : Action → Option String
  | .webhook b | .apiCall b => some b.url
  | _ => none

/-- A request is planned only if its address passes. -/
theorem plan_of_url_error (ha : a.address? = some s) (h : Check.url a.kind.name s = .error fault)
    (now : Time.Stamp) : a.plan nodeId c places now = .error fault := by
  have hhttp {kind body b} (hb : Check.url kind b.url = .error fault) :
      HttpAction.plan kind body b c = .error fault := by
    unfold HttpAction.plan
    rw [hb]
    rfl
  cases a with
  | webhook b | apiCall b =>
    cases ha
    exact hhttp h
  | _ => cases ha

/-- An action that is never planned, for a fault after which it is not tried again, is attempted
once. -/
theorem perform_of_plan_error (htimeout : a.timeout = .ok timeout)
    (hplan : ∀ now, a.plan nodeId c places now = .error fault) (hfault : fault.isTransient = false)
    (h : (a.perform nodeId c places origin policy).Course t (r, count)) :
    r = .error fault ∧ count = 1 := by
  have hrefused {x : Trial} (hx : a.Attempted nodeId c places origin timeout x) :
      x.result = .error fault ∧ ¬x.IsTransient := by
    cases hx with
    | refused hx =>
      obtain rfl := Except.error.inj ((hplan _).symm.trans hx)
      refine ⟨rfl, ?_⟩
      rintro ⟨_, ⟨⟩, htransient⟩
      rw [hfault] at htransient
      cases htransient
    | called answer hx =>
      rw [hplan] at hx
      cases hx
  obtain ⟨before, last, rfl, htried⟩ := (perform_course htimeout).mp h
  have hnone (hbefore : ∀ x ∈ before, a.Attempted nodeId c places origin timeout x ∧
      x.IsTransient) : before = [] := by
    cases before with
    | nil => rfl
    | cons x before =>
      obtain ⟨hx, htransient⟩ := hbefore x List.mem_cons_self
      exact absurd htransient (hrefused hx).2
  cases htried with
  | decided hbefore hlast hmore hend =>
    obtain rfl := hnone hbefore
    exact ⟨(hrefused hlast).1, rfl⟩
  | brokenOff message hbefore hlast hmore hend => exact absurd hend (hrefused hlast).2

end Action

end Automation
