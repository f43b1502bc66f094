import Mathlib.Data.Rat.Cast.Defs
import BlogDesk.Client
import BlogDesk.Proofs.Json.Agreement

/-!
# Answers are judged before they are read

Whether a call went well is told by the status and by the error of the answer alone. What
the result is to be read as comes later, and can only add failures of its own.
-/

namespace BlogDesk

open Json (Cause)

-- ---- Searching

theorem Text.occursIn_iff {needle text : List Char} :
    Text.occursIn needle text = true ↔ needle <:+: text := by
  induction text with
  | nil => rw [Text.occursIn, List.isEmpty_iff, List.infix_nil]
  | cons c rest ih =>
    rw [Text.occursIn, Bool.or_eq_true, List.isPrefixOf_iff_prefix, ih, List.infix_cons_iff]

-- ---- What counts as no error

def Binary64.value (x : Binary64) : ℚ :=
  (if x.negative then -1 else 1) * x.significand * 2 ^ x.exponent

def Number.value : Number → ℚ
  | .integer value => value
  | .real x => x.value

theorem Number.isZero_iff {number : Number} : number.isZero = true ↔ number.value = 0 := by
  cases number with
  | integer value => simp [isZero, Number.value]
  | real x =>
    obtain ⟨negative, significand, exponent⟩ := x
    have hscale : (2 : ℚ) ^ exponent ≠ 0 := zpow_ne_zero _ (by decide)
    cases negative <;> simp [isZero, Binary64.isZero, Number.value, Binary64.value, hscale]

/-- Errors that count as none. -/
inductive Json.Falsy : Json → Prop
  | null : Falsy .null
  | no : Falsy (.bool false)
  | zero {number : Number} (hzero : number.value = 0) : Falsy (.number number)
  | blank : Falsy (.str "")

def Json.told : Json → String
  | .str text => text
  | other => other.render

theorem Answer.errorMessage?_eq_none {answer : Answer} :
    answer.errorMessage? = none ↔ answer.error.Falsy := by
  obtain ⟨id, result, error⟩ := answer
  cases error with
  | null => exact iff_of_true rfl .null
  | bool value =>
    cases value with
    | false => exact iff_of_true rfl .no
    | true => exact iff_of_false nofun nofun
  | number number =>
    cases hzero : number.isZero with
    | true => exact iff_of_true (by simp [errorMessage?, hzero]) (.zero (Number.isZero_iff.mp hzero))
    | false =>
      refine iff_of_false (by simp [errorMessage?, hzero]) fun hfalsy => ?_
      cases hfalsy with
      | zero hvalue => cases hzero.symm.trans (Number.isZero_iff.mpr hvalue)
  | str text =>
    by_cases htext : text = ""
    · subst htext
      exact iff_of_true rfl .blank
    · refine iff_of_false (by simp [errorMessage?, htext]) fun hfalsy => ?_
      cases hfalsy
      exact htext rfl
  | array items => exact iff_of_false nofun nofun
  | object members => exact iff_of_false nofun nofun

theorem Answer.errorMessage?_of_not_falsy {answer : Answer} (h : ¬ answer.error.Falsy) :
    answer.errorMessage? = some answer.error.told := by
  cases hmessage : answer.errorMessage? with
  | none => exact absurd (errorMessage?_eq_none.mp hmessage) h
  | some message =>
    obtain ⟨id, result, error⟩ := answer
    rw [← hmessage]
    cases error <;> grind [errorMessage?, Json.told]

-- ---- Where an answer has its parts

def Json.part (value : Json) (key : String) (place : Nat) : Json :=
  match value with
  | .object members => (Keyed.find? key members).getD .null
  | .array items => items.getD place .null
  | _ => .null

theorem Answer.putMembers_eq {members : List (String × Json)} {id filledId : Option (Option Json)}
    {result filledResult error filledError : Option Json}
    (h : Json.Slots.putMembers Answer.layout.fields members (id, result, error, ()) =
      .ok (filledId, filledResult, filledError, ())) :
    filledResult = result.or (Keyed.find? "result" members) ∧
      filledError = error.or (Keyed.find? "error" members) := by
  induction members generalizing id result error with
  | nil =>
    cases h
    simp [Keyed.find?]
  | cons member rest ih =>
    obtain ⟨key, value⟩ := member
    obtain ⟨⟨nextId, nextResult, nextError, _⟩, hput, hrest⟩ := Json.Slots.putMembers_cons.mp h
    obtain ⟨hresult, herror⟩ := ih hrest
    rw [hresult, herror]
    rcases Json.Slots.putJson_cons.mp hput with ⟨hkey, -, _, -, heq⟩ | ⟨hid, _, hput, heq⟩
    · cases heq
      obtain rfl : key = "id" := hkey
      simp [Keyed.find?]
    cases heq
    rcases Json.Slots.putJson_cons.mp hput with ⟨hkey, hslot, _, hmade, heq⟩ | ⟨hother, _, hput, heq⟩
    · cases heq
      obtain rfl : key = "result" := hkey
      cases hmade
      simp [Keyed.find?, hslot]
    cases heq
    rcases Json.Slots.putJson_cons.mp hput with ⟨hkey, hslot, _, hmade, heq⟩ | ⟨hanother, _, hput, heq⟩
    · cases heq
      obtain rfl : key = "error" := hkey
      cases hmade
      simp [Keyed.find?, hslot]
    · cases hput
      cases heq
      simp [Keyed.find?, show key ≠ "result" from hother, show key ≠ "error" from hanother]

theorem Answer.items_eq {items : List Json} {contents : Json.Contents Answer.layout.fields}
    {left : Nat} (h : Json.Contents.ofItems Answer.layout.name Answer.layout.fields.length
      Answer.layout.fields 0 items = .ok (contents, left)) :
    (Answer.layout.build contents).result = items.getD 1 .null ∧
      (Answer.layout.build contents).error = items.getD 2 .null := by
  cases items with
  | nil =>
    cases h
    exact ⟨rfl, rfl⟩
  | cons id items =>
    obtain ⟨_, _, -, hmore, rfl⟩ := Json.Contents.ofItems_cons.mp h
    cases items with
    | nil =>
      cases hmore
      exact ⟨rfl, rfl⟩
    | cons result items =>
      obtain ⟨_, _, hresult, hlast, rfl⟩ := Json.Contents.ofItems_cons.mp hmore
      cases hresult
      cases items with
      | nil =>
        cases hlast
        exact ⟨rfl, rfl⟩
      | cons error items =>
        obtain ⟨_, _, herror, -, rfl⟩ := Json.Contents.ofItems_cons.mp hlast
        cases herror
        exact ⟨rfl, rfl⟩

theorem Answer.parts_of_ofJson {value : Json} {answer : Answer}
    (h : Answer.layout.ofJson value = .ok answer) :
    answer.result = value.part "result" 1 ∧ answer.error = value.part "error" 2 := by
  cases value with
  | object members =>
    simp only [Json.Layout.ofJson, bind_eq_ok] at h
    obtain ⟨⟨id, result, error, _⟩, hput, contents, hfinish, h⟩ := h
    obtain ⟨rfl, rfl⟩ := putMembers_eq hput
    cases h
    cases id <;> cases hresult : Keyed.find? "result" members <;>
      cases herror : Keyed.find? "error" members <;>
        simp only [hresult, herror] at hfinish <;> cases hfinish <;>
          simp [Json.part, hresult, herror, layout]
  | array items =>
    simp only [Json.Layout.ofJson, bind_eq_ok] at h
    obtain ⟨⟨contents, left⟩, hitems, h⟩ := h
    simp only at h
    split at h
    · cases h
      exact items_eq hitems
    · cases h
  | _ => cases h

namespace Response

variable {response : Response} {method : String}

theorem acknowledged_ok :
    response.acknowledged method = .ok () ↔ ∃ result, response.callResult method = .ok result := by
  rw [acknowledged]
  cases response.callResult method <;> simp [bind, Except.bind]

theorem callResultAs_ok {α : Type} {decode : Json → Except Cause α} {a : α} :
    response.callResultAs method decode = .ok a ↔
      ∃ result, response.callResult method = .ok result ∧ decode result = .ok a := by
  rw [callResultAs]
  cases response.callResult method with
  | error cause => simp [bind, Except.bind]
  | ok result => cases h : decode result <;> simp [bind, Except.bind, h]

/-- A response that says that the call went well. -/
structure Accepts (response : Response) (answer : Answer) : Prop where
  status : response.status = 200
  read : Answer.layout.read response.body = .ok answer
  falsy : answer.error.Falsy

/-- What a call fails with, whatever its result was to be. -/
inductive Refuses (response : Response) (method : String) : CallFailure → Prop
  | status (hstatus : response.status ≠ 200) :
    Refuses response method (.invalidStatus response.status)
  | unreadable {fault : Json.Fault} (hstatus : response.status = 200)
      (hread : Answer.layout.read response.body = .error fault) :
    Refuses response method (.deserialization fault.message)
  | error {answer : Answer} (hstatus : response.status = 200)
      (hread : Answer.layout.read response.body = .ok answer) (herror : ¬ answer.error.Falsy) :
    Refuses response method (.refused method answer.error.told)

theorem callResult_of_accepts {answer : Answer} (h : response.Accepts answer) :
    response.callResult method = .ok answer.result := by
  simp [callResult, h.status, h.read, Answer.errorMessage?_eq_none.mpr h.falsy]

theorem callResult_of_refuses {failure : CallFailure} (h : response.Refuses method failure) :
    response.callResult method = .error failure := by
  cases h with
  | status hstatus => exact if_pos hstatus
  | unreadable hstatus hread => simp [callResult, hstatus, hread]
  | error hstatus hread herror =>
    simp [callResult, hstatus, hread, Answer.errorMessage?_of_not_falsy herror]

theorem accepts_or_refuses (response : Response) (method : String) :
    (∃ answer, response.Accepts answer) ∨ ∃ failure, response.Refuses method failure := by
  by_cases hstatus : response.status = 200
  · cases hread : Answer.layout.read response.body with
    | error fault => exact .inr ⟨_, .unreadable hstatus hread⟩
    | ok answer =>
      by_cases hfalsy : answer.error.Falsy
      · exact .inl ⟨answer, hstatus, hread, hfalsy⟩
      · exact .inr ⟨_, .error hstatus hread hfalsy⟩
  · exact .inr ⟨_, .status hstatus⟩

theorem callResult_eq_ok {result : Json} : response.callResult method = .ok result ↔
    ∃ answer, response.Accepts answer ∧ answer.result = result := by
  constructor
  · intro h
    rcases response.accepts_or_refuses method with ⟨answer, haccepts⟩ | ⟨failure, hrefuses⟩
    · exact ⟨answer, haccepts, Except.ok.inj ((callResult_of_accepts haccepts).symm.trans h)⟩
    · cases (callResult_of_refuses hrefuses).symm.trans h
  · rintro ⟨answer, haccepts, rfl⟩
    exact callResult_of_accepts haccepts

theorem callResult_eq_error {failure : CallFailure} :
    response.callResult method = .error failure ↔ response.Refuses method failure := by
  refine ⟨fun h => ?_, callResult_of_refuses⟩
  rcases response.accepts_or_refuses method with ⟨answer, haccepts⟩ | ⟨other, hrefuses⟩
  · cases (callResult_of_accepts haccepts).symm.trans h
  · cases (callResult_of_refuses hrefuses).symm.trans h
    exact hrefuses

theorem acknowledged_eq_error {failure : CallFailure} :
    response.acknowledged method = .error failure ↔ response.Refuses method failure := by
  rw [← callResult_eq_error, acknowledged]
  cases response.callResult method <;> simp [bind, Except.bind]

/-- Whether a call went well is told before its result is read: by the status, and by whether
the answer has an error that counts. If it did not go well, it fails alike whatever the result
was to be, and if it did, only the result can fail to be read. -/
theorem judged_before_read (response : Response) (method : String) :
    (response.acknowledged method = .ok () ↔ ∃ answer, response.Accepts answer) ∧
    (∀ failure, response.acknowledged method = .error failure ↔ response.Refuses method failure) ∧
    (∀ {α : Type} (decode : Json → Except Cause α),
      (∀ failure, response.acknowledged method = .error failure →
        response.callResultAs method decode = .error failure) ∧
      ∀ answer, response.Accepts answer → response.callResultAs method decode =
        (decode answer.result).mapError fun cause => .deserialization cause.message) ∧
    (∀ failure, response.acknowledged method = .error failure →
      (failure.isAuthenticationRequired ↔ ∃ message, failure = .refused method message ∧
        authenticationRequired.toList <:+: message.toList)) ∧
    ∀ answer value, Answer.layout.read response.body = .ok answer →
      Json.parse response.body = .ok value →
        answer.result = value.part "result" 1 ∧ answer.error = value.part "error" 2 := by
  refine ⟨?_, fun failure => acknowledged_eq_error, fun decode => ⟨fun failure hfailed => ?_,
    fun answer haccepts => ?_⟩, fun failure hfailed => ?_, fun answer value hread hparse =>
    Answer.parts_of_ofJson (Json.Layout.ofJson_of_read hread hparse)⟩
  · rw [acknowledged_ok]
    constructor
    · rintro ⟨result, h⟩
      obtain ⟨answer, haccepts, -⟩ := callResult_eq_ok.mp h
      exact ⟨answer, haccepts⟩
    · rintro ⟨answer, haccepts⟩
      exact ⟨_, callResult_of_accepts haccepts⟩
  · rw [callResultAs, callResult_of_refuses (acknowledged_eq_error.mp hfailed)]
    rfl
  · simp only [callResultAs, callResult_of_accepts haccepts, bind, Except.bind]
    cases decode answer.result <;> rfl
  · -- Of all failures only a refusal carries a text of the service.
    cases acknowledged_eq_error.mp hfailed with
    | error hstatus hread herror =>
      simp [CallFailure.isAuthenticationRequired, CallFailure.lacksSession, Text.occursIn_iff]
    | _ => simp [CallFailure.isAuthenticationRequired]

end Response

end BlogDesk
