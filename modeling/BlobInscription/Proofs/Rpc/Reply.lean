import BlobInscription.Rpc.Call
import Mathlib.Tactic.Common

namespace BlobInscription

theorem Json.readValue_brackets {nesting count fuel : Nat} (hcount : nesting < count)
    (hfuel : 2 * nesting < fuel) :
    readValue fuel nesting (List.replicate count '[') = .error (.tooDeep .list) := by
  -- Each level costs a bracket, a unit of depth, and fuel for the value and for its list.
  induction nesting generalizing count fuel with
  | zero =>
      obtain ⟨count, rfl⟩ := Nat.exists_eq_add_of_lt hcount
      obtain ⟨fuel, rfl⟩ := Nat.exists_eq_add_of_lt hfuel
      simp [List.replicate_succ, readValue]
  | succ nesting ih =>
      obtain ⟨count, rfl⟩ : ∃ n, count = n + 2 := ⟨count - 2, by omega⟩
      obtain ⟨fuel, rfl⟩ : ∃ n, fuel = n + 2 := ⟨fuel - 2, by omega⟩
      have hinner := @ih (count + 1) fuel (by omega) (by omega)
      rw [List.replicate_succ] at hinner
      have hskip : skipSpace ('[' :: List.replicate count '[') = '[' :: List.replicate count '[' :=
        List.dropWhile_cons_of_neg (by decide)
      simp [List.replicate_succ, readValue, hskip, readItems, hinner, bind, Except.bind]

/-- Opening brackets without end are not found malformed before they are too many. -/
theorem Json.read_brackets {nesting count : Nat} (h : nesting < count) :
    read nesting (String.ofList (List.replicate count '[')) = .error (.tooDeep .list) := by
  obtain ⟨count, rfl⟩ := Nat.exists_eq_add_of_lt h
  have hskip : ∀ n, skipSpace (List.replicate (n + 1) '[') = List.replicate (n + 1) '[' :=
    fun n => List.dropWhile_cons_of_neg (by decide)
  rw [read, String.toList_ofList, hskip, readValue_brackets (by omega)]
  · rfl
  · rw [List.length_replicate]
    omega

namespace Rpc.Reply

variable {nesting : Nat}

/-- Whether there is a reply, and its status tells of no failure. -/
def isOk : Reply → Bool
  | noConnection => false
  | response status .. => !isFailure status

/-- The value in the body. -/
def content (reply : Reply) (nesting : Nat) : Except Json.ReadError Datum :=
  match reply with
  | noConnection => .error .malformed
  | response _ body namesEncoding => Json.read nesting (textOf namesEncoding body)

/-- The entries of the body, if it is an object. -/
def entries? (reply : Reply) (nesting : Nat) : Option (List (Datum × Datum)) :=
  match reply.content nesting with
  | .ok (.map entries) => some entries
  | _ => none

/-- The error in the body, if it is an object with one. -/
def error? (reply : Reply) (nesting : Nat) : Option Datum :=
  (reply.entries? nesting).bind fun entries =>
    (some (Datum.lookup entries "error")).filter Datum.truthy

/-- What the body is nested too deep in, if its reader gives up. -/
def tooDeep? (reply : Reply) (nesting : Nat) : Option Json.Container :=
  match reply.content nesting with
  | .error (.tooDeep container) => some container
  | _ => none

/-- The body says that the parameter, a height, is out of range: its error is an object of that
code. -/
def SaysNotProduced (reply : Reply) (nesting : Nat) : Prop :=
  ∃ error code, reply.error? nesting = some (.map error) ∧
    Datum.lookup? error "code" = some code ∧ code.same (.int (-8))

theorem textOf_of_head? {namesEncoding : Bool} {body : String}
    (h : body.toList.head? ≠ some '\ufeff') : textOf namesEncoding body = body := by
  unfold textOf
  split
  · rename_i hmark
    simp [hmark] at h
  · rfl

theorem resultOf_of_failure {status : Int} (h : isFailure status = true) (body? : Option Datum) :
    ∃ failure, resultOf status body? = .error (.transport failure) := by
  unfold resultOf
  exact ⟨_, if_pos h⟩

theorem meaning_of_no_entries {status : Int} {body? : Option Datum}
    (h : ∀ entries, body? ≠ some (.map entries)) :
    ∃ failure, meaning status body? = .error (.transport failure) := by
  have hmeaning : meaning status body? = resultOf status body? := by
    unfold meaning
    split
    · exact absurd rfl (h _)
    · rfl
  rw [hmeaning]
  cases hstatus : isFailure status with
  | true => exact resultOf_of_failure hstatus body?
  | false =>
      unfold resultOf
      rw [if_neg (by simp [hstatus])]
      split
      · exact absurd rfl (h _)
      · exact ⟨_, rfl⟩

section Content

variable {status : Int} {body : String} {namesEncoding : Bool} {value : Datum}

theorem result_of_content (h : (response status body namesEncoding).content nesting = .ok value) :
    (response status body namesEncoding).result nesting = meaning status (some value) := by
  rw [content] at h
  rw [result, h]

theorem result_of_content_malformed
    (h : (response status body namesEncoding).content nesting = .error .malformed) :
    (response status body namesEncoding).result nesting = meaning status none := by
  rw [content] at h
  rw [result, h]

theorem result_of_content_tooDeep {container : Json.Container}
    (h : (response status body namesEncoding).content nesting = .error (.tooDeep container)) :
    (response status body namesEncoding).result nesting = .error (.tooDeep container) := by
  rw [content] at h
  rw [result, h]

end Content

/-- All that a reply can mean: the node's refusal, which comes before everything else, the result
of the call, that there is no answer to it, or that its body is nested too deep. -/
theorem result_cases (r : Reply) (nesting : Nat) :
    (∃ error, r.error? nesting = some error ∧
      r.result nesting = .error (.refused (.ofDatum error))) ∨
    (∃ entries, r.error? nesting = none ∧ r.isOk = true ∧ r.entries? nesting = some entries ∧
      r.result nesting = .ok (Datum.lookup entries "result")) ∨
    (∃ failure, r.error? nesting = none ∧ (r.isOk = true → r.entries? nesting = none) ∧
      r.tooDeep? nesting = none ∧ r.result nesting = .error (.transport failure)) ∨
    ∃ container, r.error? nesting = none ∧ r.entries? nesting = none ∧
      r.tooDeep? nesting = some container ∧ r.result nesting = .error (.tooDeep container) := by
  cases r with
  | noConnection => exact .inr (.inr (.inl ⟨_, rfl, fun _ => rfl, rfl, rfl⟩))
  | response status body namesEncoding =>
      unfold error? entries? tooDeep?
      cases hcontent : (response status body namesEncoding).content nesting with
      | error e =>
          cases e with
          | malformed =>
              rw [result_of_content_malformed hcontent]
              refine .inr (.inr (.inl ?_))
              exact (meaning_of_no_entries (by simp)).imp fun _ hmeaning =>
                ⟨rfl, fun _ => rfl, rfl, hmeaning⟩
          | tooDeep container =>
              exact .inr (.inr (.inr ⟨container, rfl, rfl, rfl, result_of_content_tooDeep hcontent⟩))
      | ok value =>
          rw [result_of_content hcontent]
          cases value with
          | map entries =>
              cases htruthy : (Datum.lookup entries "error").truthy with
              | true =>
                  refine .inl ⟨Datum.lookup entries "error", by simp [htruthy], ?_⟩
                  rw [meaning]
                  exact if_pos htruthy
              | false =>
                  have hmeaning : meaning status (some (.map entries)) =
                      resultOf status (some (.map entries)) := by
                    rw [meaning]
                    exact if_neg (by simp [htruthy])
                  rw [hmeaning]
                  cases hstatus : isFailure status with
                  | true =>
                      obtain ⟨failure, hfailure⟩ := resultOf_of_failure hstatus (some (.map entries))
                      exact .inr (.inr (.inl
                        ⟨failure, by simp [htruthy], by simp [isOk, hstatus], rfl, hfailure⟩))
                  | false =>
                      refine .inr (.inl
                        ⟨entries, by simp [htruthy], by simp [isOk, hstatus], rfl, ?_⟩)
                      exact if_neg (by simp [hstatus])
          | _ =>
              refine .inr (.inr (.inl ?_))
              exact (meaning_of_no_entries (by simp)).imp fun _ hmeaning =>
                ⟨rfl, fun _ => rfl, rfl, hmeaning⟩

section Outcome

variable {r : Reply}

theorem result_of_error {error : Datum} (h : r.error? nesting = some error) :
    r.result nesting = .error (.refused (.ofDatum error)) := by
  rcases r.result_cases nesting with
    ⟨_, herror, hresult⟩ | ⟨_, herror, -⟩ | ⟨_, herror, -⟩ | ⟨_, herror, -⟩
  · rw [h, Option.some.injEq] at herror
    rw [hresult, herror]
  · simp [h] at herror
  · simp [h] at herror
  · simp [h] at herror

theorem result_of_entries {entries : List (Datum × Datum)} (herror : r.error? nesting = none)
    (hok : r.isOk = true) (hentries : r.entries? nesting = some entries) :
    r.result nesting = .ok (Datum.lookup entries "result") := by
  rcases r.result_cases nesting with
    ⟨_, h, -⟩ | ⟨_, -, -, h, hresult⟩ | ⟨_, -, h, -⟩ | ⟨_, -, h, -⟩
  · simp [herror] at h
  · rw [hentries, Option.some.injEq] at h
    rw [hresult, h]
  · simp [h hok] at hentries
  · simp [h] at hentries

theorem result_otherwise (herror : r.error? nesting = none)
    (hentries : r.isOk = true → r.entries? nesting = none) (hdepth : r.tooDeep? nesting = none) :
    ∃ failure, r.result nesting = .error (.transport failure) := by
  rcases r.result_cases nesting with
    ⟨_, h, -⟩ | ⟨_, -, hok, h, -⟩ | ⟨failure, -, -, -, hresult⟩ | ⟨_, -, -, h, -⟩
  · simp [herror] at h
  · simp [hentries hok] at h
  · exact ⟨failure, hresult⟩
  · simp [hdepth] at h

theorem content_of_tooDeep {container : Json.Container} (h : r.tooDeep? nesting = some container) :
    r.content nesting = .error (.tooDeep container) := by
  unfold tooDeep? at h
  split at h
  · rename_i hcontent
    cases h
    exact hcontent
  · cases h

theorem error?_of_tooDeep {container : Json.Container} (h : r.tooDeep? nesting = some container) :
    r.error? nesting = none := by
  rw [error?, entries?, content_of_tooDeep h]
  rfl

theorem result_of_tooDeep {container : Json.Container} (h : r.tooDeep? nesting = some container) :
    r.result nesting = .error (.tooDeep container) := by
  cases r with
  | noConnection => cases h
  | response status body namesEncoding => exact result_of_content_tooDeep (content_of_tooDeep h)

theorem isOk_of_result {value : Datum} (h : r.result nesting = .ok value) : r.isOk = true := by
  rcases r.result_cases nesting with
    ⟨_, -, hresult⟩ | ⟨_, -, hok, -⟩ | ⟨_, -, -, -, hresult⟩ | ⟨_, -, -, -, hresult⟩
  · simp [h] at hresult
  · exact hok
  · simp [h] at hresult
  · simp [h] at hresult

end Outcome

end Rpc.Reply

end BlobInscription
