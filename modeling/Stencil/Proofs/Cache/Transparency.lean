import Stencil.Cache.Requests
import Stencil.Proofs.Cache.Moves

namespace Stencil

/-- Each stored template is the parsed text that it is stored for, and such texts may be stored. -/
def Cache.IsFaithful (cache : Cache) : Prop :=
  ∀ text shared, (text, shared) ∈ cache.entries →
    shared.template = .parse text ∧ cache.limits.Storable text

theorem Cache.isFaithful_empty (limits : Limits) : (empty limits).IsFaithful := by
  intro text shared member
  cases member

namespace Call

/-- How far a call for a text has come, that text is what it parses and is answered with. What may
not be stored does not go on to be stored. -/
def Serves (limits : Limits) (text : String) : Call → Prop
  | asked other => other = text
  | absent fresh | overfull fresh | storing fresh =>
      fresh.template = .parse text ∧ limits.Storable text
  | answered shared => shared.template = .parse text

namespace Steps

variable {cache after : Cache} {call next : Call}

theorem serves (steps : call.Steps cache next after) (faithful : cache.IsFaithful) {text : String}
    (serving : call.Serves cache.limits text) : next.Serves cache.limits text := by
  cases steps with
  | hit found =>
      rcases serving with rfl
      exact (faithful _ _ (Cache.mem_of_find? found)).1
  | miss storable =>
      rcases serving with rfl
      exact ⟨rfl, storable⟩
  | pass =>
      rcases serving with rfl
      rfl
  | raced found =>
      have parsed := (faithful _ _ (Cache.mem_of_find? found)).1
      rw [serving.1] at parsed
      exact parsed
  | store => exact serving.1
  | full | room | evict | rest => exact serving

/-- A call clears the cache or stores its own template in it, if it changes the entries at all. -/
theorem isFaithful (steps : call.Steps cache next after) (faithful : cache.IsFaithful)
    {text : String} (serving : call.Serves cache.limits text) : after.IsFaithful := by
  cases steps with
  | evict =>
      intro other shared member
      cases member
  | store fresh =>
      rcases serving with ⟨parsed, storable⟩
      have own : fresh.template.text = text := congrArg Template.text parsed
      intro other shared member
      rcases List.mem_cons.mp member with same | earlier
      · rcases Prod.mk.inj same with ⟨rfl, rfl⟩
        rw [own]
        exact ⟨parsed, storable⟩
      · exact faithful other shared earlier
  | hit | miss | pass | full | room | raced | rest => exact faithful

end Steps

end Call

namespace World

structure IsServing (limits : Limits) (texts : List String) (world : World) : Prop where
  limits_eq : world.cache.limits = limits
  faithful : world.cache.IsFaithful
  length : world.calls.length = texts.length
  calls : ∀ (i : Nat) (call : Call), world.calls[i]? = some call →
    ∃ text, texts[i]? = some text ∧ call.Serves limits text

theorem IsServing.moves {limits : Limits} {texts : List String} {world after : World} {move : Move}
    (serving : world.IsServing limits texts) (moves : world.Moves move after) :
    after.IsServing limits (texts ++ move.text?.toList) := by
  rcases serving with ⟨rfl, faithful, length, calls⟩
  cases moves with
  | ask text =>
      refine ⟨rfl, faithful, by simp [Move.text?, length], ?_⟩
      intro i call found
      rw [Move.text?, Option.toList_some]
      by_cases earlier : i < world.calls.length
      · rw [List.getElem?_append_left earlier] at found
        rw [List.getElem?_append_left (length ▸ earlier)]
        exact calls i call found
      · have last : i = world.calls.length := by
          have inside := (List.getElem?_eq_some_iff.mp found).1
          rw [List.length_append, List.length_singleton] at inside
          omega
        rw [last, List.getElem?_concat_length] at found
        rw [last, length, List.getElem?_concat_length]
        rcases Option.some.inj found with rfl
        exact ⟨text, rfl, rfl⟩
  | @advance i call next after found steps =>
      rcases calls i call found with ⟨text, asked, serves⟩
      rw [Move.text?, Option.toList_none, List.append_nil]
      refine ⟨steps.limits_eq, steps.isFaithful faithful serves, by simp [length], ?_⟩
      intro j other place
      by_cases own : i = j
      · subst own
        have inside := (List.getElem?_eq_some_iff.mp found).1
        rw [List.getElem?_set_self inside] at place
        rcases Option.some.inj place with rfl
        exact ⟨text, asked, steps.serves faithful serves⟩
      · rw [List.getElem?_set_ne own] at place
        exact calls j other place
  | idle absent =>
      rw [Move.text?, Option.toList_none, List.append_nil]
      exact ⟨rfl, faithful, length, calls⟩
  | clear =>
      rw [Move.text?, Option.toList_none, List.append_nil]
      refine ⟨rfl, ?_, length, calls⟩
      intro text shared member
      cases member

theorem isServing_run {cache : Cache} (faithful : cache.IsFaithful) (moves : List Move) :
    ((World.mk cache []).run moves).IsServing cache.limits (asked moves) := by
  have start : (World.mk cache []).IsServing cache.limits [] := by
    refine ⟨rfl, faithful, rfl, ?_⟩
    intro i call found
    cases found
  apply kept_run (World.IsServing cache.limits) _ [] start moves
  intro texts world after move serving moves
  exact serving.moves moves

end World

theorem Cache.IsFaithful.template_get {cache : Cache} (faithful : cache.IsFaithful)
    (text : String) : (cache.get text).1.template = .parse text := by
  have served := World.isServing_run faithful (wholeCall 0 text)
  have whole : (World.mk cache []).run (wholeCall 0 text) = _ := World.run_wholeCall _ text
  rw [whole] at served
  obtain ⟨other, same, parsed⟩ := served.calls 0 _ rfl
  obtain rfl : text = other := Option.some.inj same
  exact parsed

theorem Cache.IsFaithful.renderText {cache : Cache} (faithful : cache.IsFaithful)
    (properties : Properties) (symbols : Option Symbols) (text : String) :
    (cache.renderText properties symbols text).1 =
      (Template.parse text).renderText properties (symbols.getD .invariant) :=
  congrArg (fun template => template.renderText properties (symbols.getD .invariant))
    (faithful.template_get text)

namespace Cache

/-- After any moves on an empty cache, it holds for a text, if anything, the template that the text
is parsed as, and only for texts that may be stored. So does each call answer that was asked for
the text, and it is answered when it has taken four steps, whatever moves there are between them.
What is rendered through the cache is rendered by the parsed text. -/
theorem transparent (limits : Limits) (moves : List Move) :
    let world := (World.mk (.empty limits) []).run moves
    (∀ text shared, (text, shared) ∈ world.cache.entries →
        shared.template = .parse text ∧ text.utf8ByteSize ≤ limits.maxTemplateLength) ∧
      (limits.maxEntries = 0 → world.cache.entries = []) ∧
      (∀ (i : Nat) (shared : Shared), world.calls[i]? = some (.answered shared) →
        ∃ text, (asked moves)[i]? = some text ∧ shared.template = .parse text) ∧
      (∀ (i : Nat) (text : String) (more : List Move), (asked moves)[i]? = some text →
        4 ≤ turns i more → ∃ shared, (world.run more).calls[i]? = some (.answered shared) ∧
            shared.template = .parse text) ∧
      ∀ (properties : Properties) (symbols : Option Symbols) (text : String),
        (world.cache.renderText properties symbols text).1 =
          (Template.parse text).renderText properties (symbols.getD .invariant) := by
  intro world
  have faithful := isFaithful_empty limits
  have serving : world.IsServing limits (asked moves) := World.isServing_run faithful moves
  have further (more : List Move) :
      (world.run more).IsServing limits (asked moves ++ asked more) := by
    have later := World.isServing_run faithful (moves ++ more)
    rw [World.run_append, asked, List.filterMap_append] at later
    exact later
  refine ⟨?_, ?_, ?_, ?_, ?_⟩
  · intro text shared member
    rcases serving.faithful text shared member with ⟨parsed, storable⟩
    rw [serving.limits_eq] at storable
    exact ⟨parsed, storable.2⟩
  · intro none_kept
    apply List.eq_nil_iff_forall_not_mem.mpr
    intro entry member
    have storable := (serving.faithful entry.1 entry.2 member).2
    rw [serving.limits_eq] at storable
    exact Nat.ne_of_gt storable.1 none_kept
  · intro i shared found
    exact serving.calls i _ found
  · intro i text more asked_for enough
    have inside : i < world.calls.length := by
      rw [serving.length]
      exact (List.getElem?_eq_some_iff.mp asked_for).1
    rcases World.exists_call_run (List.getElem?_eq_getElem inside) more with ⟨later, place, less⟩
    have most := world.calls[i].stepsLeft_le
    have done : later.stepsLeft = 0 := by omega
    rcases Call.exists_answered done with ⟨shared, rfl⟩
    rcases (further more).calls i _ place with ⟨other, same, parsed⟩
    have earlier := (List.getElem?_eq_some_iff.mp asked_for).1
    rw [List.getElem?_append_left earlier, asked_for] at same
    rcases Option.some.inj same with rfl
    exact ⟨shared, place, parsed⟩
  · intro properties symbols text
    exact serving.faithful.renderText properties symbols text

theorem transparent_between_clearings :
    let moves : List Move := [.ask "\x7bA\x7d", .ask "b", .ask "c", .advance 0, .advance 1,
      .advance 0, .advance 1, .advance 0, .clear, .advance 1]
    let more : List Move := [.advance 2, .advance 2, .ask "d", .advance 2, .advance 2]
    let world := (World.mk (.empty ⟨1, 9⟩) []).run moves
    (("b", Shared.mk 1 (.parse "b")) ∈ world.cache.entries ∧ "b".utf8ByteSize ≤ 9) ∧
      (world.calls[0]? = some (.answered ⟨0, .parse "\x7bA\x7d"⟩) ∧
        ∃ text, (asked moves)[0]? = some text ∧
          Template.parse "\x7bA\x7d" = .parse text) ∧
      ((asked moves)[2]? = some "c" ∧ 4 ≤ turns 2 more ∧
        ∃ shared, (world.run more).calls[2]? = some (.answered shared) ∧
          shared.template = .parse "c") ∧
      ((World.mk (.empty ⟨0, 9⟩) []).run moves).cache.entries = [] := by
  intro moves more world
  rcases transparent ⟨1, 9⟩ moves with ⟨stored, -, answers, ends, -⟩
  rcases transparent ⟨0, 9⟩ moves with ⟨-, nothing, -⟩
  have member : ("b", Shared.mk 1 (.parse "b")) ∈ world.cache.entries := .head _
  have answered : world.calls[0]? = some (.answered ⟨0, .parse "\x7bA\x7d"⟩) := rfl
  have third : (asked moves)[2]? = some "c" := rfl
  have enough : 4 ≤ turns 2 more := by decide
  refine ⟨⟨member, (stored _ _ member).2⟩, ⟨answered, answers 0 _ answered⟩,
    ⟨third, enough, ends 2 "c" more third enough⟩, nothing rfl⟩

end Cache

end Stencil
