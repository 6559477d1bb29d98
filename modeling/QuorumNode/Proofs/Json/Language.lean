/-
The values of JSON text are the well-formed ones: whatever a text gives can be written, and
reads back from what is written.
-/
import QuorumNode.Proofs.Json.Reading

namespace QuorumNode.Json

open QuorumNode.Data

/-! The tokens of a text -/

def Token.WellFormed : Token → Prop
  | .literal v => Json.WellFormed v
  | _ => True

theorem wellFormed_of_isLiteral {v : Value} (hv : NumberPart.IsLiteral v) : WellFormed v := by
  obtain ⟨part, text, hspells, hpart, rfl⟩ := hv
  rcases part.value_eq text with ⟨n, hint⟩ | hreal
  · rw [hint]
    exact .int n
  · rw [hreal]
    exact .real ⟨part, text, hspells, hpart, hreal⟩

theorem wellFormed_of_wordToken? {letters : List Char} {token : Token}
    (hword : wordToken? letters = some token) : token.WellFormed := by
  unfold wordToken? at hword
  split at hword
  next => cases hword; exact .null
  next => cases hword; exact .bool true
  next => cases hword; exact .bool false
  next => contradiction

namespace Mode

/-- A number under way is the beginning of a literal. -/
def WellFormed : Mode → Prop
  | number part written => part.Spells written.reverse
  | _ => True

/-- What a character leads to. -/
structure After (next : Mode) (tokens : List Token) : Prop where
  mode : next.WellFormed
  tokens : ∀ token ∈ tokens, token.WellFormed

theorem after_of_no_token {next : Mode} (hnext : next.WellFormed) : After next [] :=
  ⟨hnext, List.forall_mem_nil _⟩

theorem after_start? {c : Char} {next : Mode} {tokens : List Token}
    (hstart : start? c = some (next, tokens)) : After next tokens := by
  unfold start? at hstart
  split at hstart
  any_goals
    cases hstart
    constructor
    all_goals simp [WellFormed, Token.WellFormed, NumberPart.Spells.sign, NumberPart.Spells.zero]
  -- What is left begins a number, but not with a zero, or a word.
  have hzero : c ≠ '0' := by assumption
  split at hstart
  next hdigit =>
    cases hstart
    exact after_of_no_token (.whole hdigit hzero)
  next =>
    obtain ⟨-, hnext⟩ := Option.ite_none_right_eq_some.mp hstart
    cases hnext
    exact after_of_no_token trivial

theorem wellFormed_of_close? {mode : Mode} {tokens : List Token} (hmode : mode.WellFormed)
    (hclose : mode.close? = some tokens) : ∀ token ∈ tokens, token.WellFormed := by
  cases mode with
  | between => cases hclose; exact List.forall_mem_nil _
  | word letters =>
      obtain ⟨token, hword, rfl⟩ := Option.map_eq_some_iff.mp hclose
      exact List.forall_mem_singleton.mpr (wellFormed_of_wordToken? hword)
  | number part written =>
      obtain ⟨hpart, htokens⟩ := Option.ite_none_right_eq_some.mp hclose
      cases htokens
      exact List.forall_mem_singleton.mpr
        (wellFormed_of_isLiteral ⟨part, _, hmode, hpart, rfl⟩)
  | _ => contradiction

theorem after_restart? {mode next : Mode} {c : Char} {tokens : List Token}
    (hmode : mode.WellFormed) (hrestart : mode.restart? c = some (next, tokens)) :
    After next tokens := by
  simp only [restart?, Option.bind_eq_bind, Option.bind_eq_some_iff, Option.pure_def,
    Option.some.injEq, Prod.mk.injEq] at hrestart
  obtain ⟨ended, hclose, ⟨later, more⟩, hstart, rfl, rfl⟩ := hrestart
  obtain ⟨hnext, hmore⟩ := after_start? hstart
  exact ⟨hnext, List.forall_mem_append.mpr ⟨wellFormed_of_close? hmode hclose, hmore⟩⟩

theorem after_step? {mode next : Mode} {c : Char} {tokens : List Token}
    (hmode : mode.WellFormed) (hstep : mode.step? c = some (next, tokens)) :
    After next tokens := by
  cases mode with
  | between => exact after_start? hstep
  | word letters =>
      rw [step?] at hstep
      split at hstep
      next => cases hstep; exact after_of_no_token trivial
      next => exact after_restart? hmode hstep
  | number part written =>
      rw [step?] at hstep
      split at hstep
      next later hlater =>
        cases hstep
        refine after_of_no_token ?_
        rw [WellFormed, List.reverse_cons]
        exact .next hmode hlater
      next => exact after_restart? hmode hstep
  | text units =>
      rw [step?] at hstep
      split at hstep
      next => cases hstep; exact ⟨trivial, List.forall_mem_singleton.mpr trivial⟩
      next =>
        split at hstep
        next => cases hstep; exact after_of_no_token trivial
        next =>
          obtain ⟨-, hnext⟩ := Option.ite_none_left_eq_some.mp hstep
          cases hnext
          exact after_of_no_token trivial
  | escape units =>
      rw [step?] at hstep
      split at hstep
      next => cases hstep; exact after_of_no_token trivial
      next =>
        obtain ⟨unit, -, hnext⟩ := Option.map_eq_some_iff.mp hstep
        cases hnext
        exact after_of_no_token trivial
  | code units digits value =>
      obtain ⟨d, -, hnext⟩ := Option.map_eq_some_iff.mp hstep
      split at hnext
      all_goals
        cases hnext
        exact after_of_no_token trivial

theorem Reads.after {mode last : Mode} {chars : List Char} {tokens : List Token}
    (hreads : Reads mode chars last tokens) (hmode : mode.WellFormed) : After last tokens := by
  induction hreads with
  | nil => exact after_of_no_token hmode
  | cons hstep _ ih =>
      obtain ⟨hnext, hfirst⟩ := after_step? hmode hstep
      obtain ⟨hlast, hrest⟩ := ih hnext
      exact ⟨hlast, List.forall_mem_append.mpr ⟨hfirst, hrest⟩⟩

end Mode

theorem wellFormed_of_tokens? {chars : List Char} {tokens : List Token}
    (htokens : tokens? chars = some tokens) : ∀ token ∈ tokens, token.WellFormed := by
  obtain ⟨mode, first, last, hreads, hclose, rfl⟩ := tokens?_eq_some_iff.mp htokens
  obtain ⟨hmode, hfirst⟩ := hreads.after trivial
  exact List.forall_mem_append.mpr ⟨hfirst, Mode.wellFormed_of_close? hmode hclose⟩

/-! The value of a text -/

def Frame.WellFormed : Frame → Prop
  | .list done => ∀ v ∈ done, Json.WellFormed v
  | .object done _ => ∀ member ∈ done, Json.WellFormed member.2

def Phase.WellFormed : Phase → Prop
  | .name done | .colon done _ => ∀ member ∈ done, Json.WellFormed member.2
  | .complete v => Json.WellFormed v
  | _ => True

/-- Whatever the reading has taken is well formed. -/
structure Reading.WellFormed (reading : Reading) : Prop where
  frames : ∀ frame ∈ reading.frames, frame.WellFormed
  phase : reading.phase.WellFormed

namespace Reading

theorem wellFormed_begin? {frames : List Frame} {token : Token} {reading : Reading}
    (hframes : ∀ frame ∈ frames, frame.WellFormed) (htoken : token.WellFormed)
    (hbegin : begin? frames token = some reading) : reading.WellFormed := by
  unfold begin? at hbegin
  split at hbegin
  next v => cases hbegin; exact ⟨hframes, htoken⟩
  next content => cases hbegin; exact ⟨hframes, .text content⟩
  next => cases hbegin; exact ⟨hframes, trivial⟩
  next => cases hbegin; exact ⟨hframes, trivial⟩
  next => contradiction

theorem wellFormed_continue? {frames : List Frame} {token : Token} {v : Value}
    {reading : Reading} (hframes : ∀ frame ∈ frames, frame.WellFormed)
    (hv : Json.WellFormed v) (hcontinue : continue? v frames token = some reading) :
    reading.WellFormed := by
  cases frames with
  | nil => contradiction
  | cons frame rest =>
      obtain ⟨hdone, hrest⟩ := List.forall_mem_cons.mp hframes
      cases frame with
      | list done =>
          have hitems : ∀ item ∈ v :: done, Json.WellFormed item :=
            List.forall_mem_cons.mpr ⟨hv, hdone⟩
          cases token with
          | comma =>
              cases hcontinue
              exact ⟨List.forall_mem_cons.mpr ⟨hitems, hrest⟩, trivial⟩
          | closeList =>
              cases hcontinue
              exact ⟨hrest, .list fun item hitem => hitems item (List.mem_reverse.mp hitem)⟩
          | _ => contradiction
      | object done name =>
          have hmembers : ∀ member ∈ (name, v) :: done, Json.WellFormed member.2 :=
            List.forall_mem_cons.mpr ⟨hv, hdone⟩
          cases token with
          | comma =>
              cases hcontinue
              exact ⟨hrest, hmembers⟩
          | closeObject =>
              cases hcontinue
              refine ⟨hrest, .object ?_⟩
              intro member hmember
              exact hmembers member (List.mem_reverse.mp hmember)
          | _ => contradiction

theorem wellFormed_step? {reading next : Reading} {token : Token}
    (hreading : reading.WellFormed) (htoken : token.WellFormed)
    (hstep : reading.step? token = some next) : next.WellFormed := by
  obtain ⟨frames, phase⟩ := reading
  obtain ⟨hframes, hphase⟩ := hreading
  have hempty : Frame.WellFormed (.list []) := by simp [Frame.WellFormed]
  unfold step? at hstep
  split at hstep
  next => exact wellFormed_begin? hframes htoken hstep
  next => cases hstep; exact ⟨hframes, .list (List.forall_mem_nil _)⟩
  next => exact wellFormed_begin? (List.forall_mem_cons.mpr ⟨hempty, hframes⟩) htoken hstep
  next => cases hstep; exact ⟨hframes, .object (List.forall_mem_nil _)⟩
  next => cases hstep; exact ⟨hframes, List.forall_mem_nil _⟩
  next heq =>
    cases hstep
    cases heq
    exact ⟨hframes, hphase⟩
  next heq =>
    cases hstep
    cases heq
    exact ⟨List.forall_mem_cons.mpr ⟨hphase, hframes⟩, trivial⟩
  next heq =>
    cases heq
    exact wellFormed_continue? hframes hphase hstep
  next => contradiction

theorem wellFormed_foldlM {tokens : List Token} {reading last : Reading}
    (htokens : ∀ token ∈ tokens, token.WellFormed) (hreading : reading.WellFormed)
    (hrun : tokens.foldlM step? reading = some last) : last.WellFormed := by
  induction tokens generalizing reading with
  | nil =>
      cases hrun
      exact hreading
  | cons token rest ih =>
      obtain ⟨htoken, hrest⟩ := List.forall_mem_cons.mp htokens
      rw [List.foldlM_cons, Option.bind_eq_bind, Option.bind_eq_some_iff] at hrun
      obtain ⟨next, hstep, hrun⟩ := hrun
      exact ih hrest (wellFormed_step? hreading htoken hstep) hrun

end Reading

theorem wellFormed_of_parse? {text : String} {v : Value} (hparse : parse? text = some v) :
    WellFormed v := by
  obtain ⟨tokens, htokens, hvalue⟩ := Option.bind_eq_some_iff.mp hparse
  obtain ⟨reading, hrun, hfinish⟩ := Option.bind_eq_some_iff.mp hvalue
  have hstart : Reading.WellFormed ⟨[], .value⟩ := ⟨by simp, trivial⟩
  have hreading : reading.WellFormed :=
    Reading.wellFormed_foldlM (wellFormed_of_tokens? htokens) hstart hrun
  unfold Reading.finish? at hfinish
  split at hfinish
  next =>
    cases hfinish
    exact hreading.phase
  next => contradiction

/-- The values of texts are the well-formed ones. -/
theorem wellFormed_iff {v : Value} : WellFormed v ↔ ∃ text, parse? text = some v := by
  constructor
  · intro hv
    exact ⟨render v, parse?_render hv⟩
  · rintro ⟨text, hparse⟩
    exact wellFormed_of_parse? hparse

end QuorumNode.Json
