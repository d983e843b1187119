import Stencil.Cache.Interleaving

/-!
What one step of a call does to the call and to the cache, and what a move does to a world. From
this follows what holds of a world after any moves. A call that goes on alone is answered as
`Cache.get` answers it, whatever calls wait meanwhile.
-/

namespace Stencil

def Limits.Storable (limits : Limits) (text : String) : Prop :=
  0 < limits.maxEntries ∧ text.utf8ByteSize ≤ limits.maxTemplateLength

namespace Cache

theorem admits_iff (cache : Cache) (text : String) :
    cache.admits text ↔ cache.limits.Storable text := by
  simp [admits, Limits.Storable, Nat.pos_iff_ne_zero]

theorem isFull_iff (cache : Cache) : cache.isFull ↔ cache.limits.maxEntries ≤ cache.size := by
  simp [isFull]

theorem isFull_eq_false_iff (cache : Cache) :
    cache.isFull = false ↔ cache.size < cache.limits.maxEntries := by
  simp [isFull]

theorem mem_of_find? {cache : Cache} {text : String} {shared : Shared}
    (found : cache.find? text = some shared) : (text, shared) ∈ cache.entries := by
  rcases List.lookup_eq_some_iff.mp found with ⟨before, after, split, -⟩
  rw [split]
  exact List.mem_append_right before List.mem_cons_self

end Cache

namespace Call

inductive Steps (cache : Cache) : Call → Call → Cache → Prop
  | hit {text : String} {shared : Shared} (found : cache.find? text = some shared) :
      Steps cache (asked text) (answered shared) cache
  | miss {text : String} (storable : cache.limits.Storable text)
      (unknown : cache.find? text = none) :
      Steps cache (asked text) (absent ⟨cache.next, .parse text⟩)
        { cache with next := cache.next + 1 }
  | pass {text : String} (refused : ¬ cache.limits.Storable text)
      (unknown : cache.find? text = none) :
      Steps cache (asked text) (answered ⟨cache.next, .parse text⟩)
        { cache with next := cache.next + 1 }
  | full (fresh : Shared) (full : cache.limits.maxEntries ≤ cache.size) :
      Steps cache (absent fresh) (overfull fresh) cache
  | room (fresh : Shared) (room : cache.size < cache.limits.maxEntries) :
      Steps cache (absent fresh) (storing fresh) cache
  | evict (fresh : Shared) : Steps cache (overfull fresh) (storing fresh) cache.clear
  | raced {fresh shared : Shared} (found : cache.find? fresh.template.text = some shared) :
      Steps cache (storing fresh) (answered shared) cache
  | store (fresh : Shared) (unknown : cache.find? fresh.template.text = none) :
      Steps cache (storing fresh) (answered fresh)
        { cache with entries := (fresh.template.text, fresh) :: cache.entries }
  | rest (shared : Shared) : Steps cache (answered shared) (answered shared) cache

theorem steps_step (call : Call) (cache : Cache) :
    call.Steps cache (call.step cache).1 (call.step cache).2.1 := by
  cases call with
  | asked text =>
      have admits := ({ cache with next := cache.next + 1 } : Cache).admits_iff text
      rw [step]
      split
      · next found => exact .hit found
      · next unknown =>
        by_cases storable : cache.limits.Storable text
        · simp only [admits.mpr storable, if_true]
          exact .miss storable unknown
        · simp only [mt admits.mp storable]
          exact .pass storable unknown
  | absent fresh =>
      rw [step]
      cases full : cache.isFull with
      | true => exact .full fresh (cache.isFull_iff.mp full)
      | false => exact .room fresh (cache.isFull_eq_false_iff.mp full)
  | overfull fresh => exact .evict fresh
  | storing fresh =>
      rw [step]
      split
      · next found => exact .raced found
      · next unknown => exact .store fresh unknown
  | answered shared => exact .rest shared

theorem Steps.limits_eq {cache after : Cache} {call next : Call}
    (steps : call.Steps cache next after) : after.limits = cache.limits := by
  cases steps <;> rfl

theorem stepsLeft_le (call : Call) : call.stepsLeft ≤ 4 := by
  cases call <;> simp [stepsLeft]

theorem exists_answered {call : Call} (done : call.stepsLeft = 0) :
    ∃ shared, call = answered shared := by
  cases call with
  | answered shared => exact ⟨shared, rfl⟩
  | asked | absent | overfull | storing => cases done

theorem finish_step (call : Call) (cache : Cache) :
    ((call.step cache).1.finish (call.step cache).2.1).1 = (call.finish cache).1 ∧
      ((call.step cache).1.finish (call.step cache).2.1).2.1 = (call.finish cache).2.1 := by
  cases call with
  | answered shared => exact ⟨rfl, rfl⟩
  | asked | absent | overfull | storing =>
      rw [finish]
      exact ⟨rfl, rfl⟩

end Call

namespace Move

def text? : Move → Option String
  | ask text => some text
  | advance _ | clear => none

def isTurn (i : Nat) : Move → Bool
  | advance j => j = i
  | ask _ | clear => false

end Move

def asked (moves : List Move) : List String := moves.filterMap Move.text?

def turns (i : Nat) (moves : List Move) : Nat := moves.countP (Move.isTurn i)

/-- A call for a text that begins, and goes on under the number `i` until it is answered. -/
def wholeCall (i : Nat) (text : String) : List Move :=
  .ask text :: List.replicate 4 (.advance i)

namespace World

inductive Moves (world : World) : Move → World → Prop
  | ask (text : String) : Moves world (.ask text) ⟨world.cache, world.calls ++ [.asked text]⟩
  | advance {i : Nat} {call next : Call} {after : Cache} (found : world.calls[i]? = some call)
      (steps : call.Steps world.cache next after) :
      Moves world (.advance i) ⟨after, world.calls.set i next⟩
  | idle {i : Nat} (absent : world.calls[i]? = none) : Moves world (.advance i) world
  | clear : Moves world .clear ⟨world.cache.clear, world.calls⟩

theorem moves_move (world : World) (move : Move) : world.Moves move (world.move move) := by
  cases move with
  | ask text => exact .ask text
  | clear => exact .clear
  | advance i =>
      rw [World.move]
      split
      · next absent => exact .idle absent
      · next call found => exact .advance found (call.steps_step world.cache)

/-- What each move keeps holds after all moves. It may speak of the texts asked for so far. -/
theorem kept_run (kept : List String → World → Prop)
    (step : ∀ {texts : List String} {world after : World} {move : Move},
      kept texts world → world.Moves move after → kept (texts ++ move.text?.toList) after)
    (texts : List String) {world : World} (start : kept texts world) (moves : List Move) :
    kept (texts ++ asked moves) (world.run moves) := by
  induction moves generalizing texts world with
  | nil =>
      rw [asked, List.filterMap_nil, List.append_nil]
      exact start
  | cons move rest ih =>
      have next := ih _ (step start (world.moves_move move))
      have texts_eq : move.text?.toList ++ asked rest = asked (move :: rest) := by
        cases move <;> rfl
      rw [List.append_assoc, texts_eq] at next
      exact next

theorem limits_run (world : World) (moves : List Move) :
    (world.run moves).cache.limits = world.cache.limits := by
  apply kept_run (fun _ after => after.cache.limits = world.cache.limits) _ [] rfl moves
  intro texts before after move same moves
  cases moves with
  | ask | clear | idle => exact same
  | advance found steps => exact steps.limits_eq.trans same

theorem length_calls_run (cache : Cache) (moves : List Move) :
    ((World.mk cache []).run moves).calls.length = (asked moves).length := by
  apply kept_run (fun texts world => world.calls.length = texts.length) _ [] rfl moves
  intro texts world after move same moves
  cases moves with
  | ask text => simp [Move.text?, same]
  | advance found steps => simpa [Move.text?] using same
  | idle | clear => simpa [Move.text?] using same

theorem inFlight_take_le (cache : Cache) (moves : List Move) (n : Nat) :
    ((World.mk cache []).run (moves.take n)).inFlight ≤ (asked moves).length := by
  have begun : (asked (moves.take n)).length ≤ (asked moves).length :=
    ((List.take_sublist n moves).filterMap Move.text?).length_le
  calc
    ((World.mk cache []).run (moves.take n)).inFlight
        ≤ ((World.mk cache []).run (moves.take n)).calls.length := List.countP_le_length
    _ = (asked (moves.take n)).length := length_calls_run cache (moves.take n)
    _ ≤ (asked moves).length := begun

/-- A call keeps its number in each move, and only its own steps bring it nearer to its answer. -/
theorem exists_call_move {world : World} {i : Nat} {call : Call}
    (found : world.calls[i]? = some call) (move : Move) :
    ∃ next, (world.move move).calls[i]? = some next ∧
      next.stepsLeft ≤ call.stepsLeft - turns i [move] := by
  rcases List.getElem?_eq_some_iff.mp found with ⟨inside, -⟩
  cases move with
  | ask text =>
      refine ⟨call, ?_, Nat.le_refl _⟩
      rw [move, List.getElem?_append_left inside]
      exact found
  | clear => exact ⟨call, found, Nat.le_refl _⟩
  | advance j =>
      by_cases own : j = i
      · subst own
        refine ⟨(call.step world.cache).1, ?_, ?_⟩
        · simp only [move, found]
          exact List.getElem?_set_self inside
        · simpa [turns, Move.isTurn] using call.stepsLeft_step world.cache
      · refine ⟨call, ?_, by simp [turns, Move.isTurn, own]⟩
        cases other : world.calls[j]? with
        | none => simpa [move, other] using found
        | some _ => simpa [move, other, List.getElem?_set_ne own] using found

theorem exists_call_run {world : World} {i : Nat} {call : Call}
    (found : world.calls[i]? = some call) (moves : List Move) :
    ∃ later, (world.run moves).calls[i]? = some later ∧
      later.stepsLeft ≤ call.stepsLeft - turns i moves := by
  induction moves generalizing world call with
  | nil => exact ⟨call, found, Nat.le_refl _⟩
  | cons move rest ih =>
      rcases exists_call_move found move with ⟨next, place, less⟩
      rcases ih place with ⟨later, last, fewer⟩
      have split : turns i (move :: rest) = turns i [move] + turns i rest := by
        rw [← List.singleton_append, turns, List.countP_append]
        rfl
      refine ⟨later, last, ?_⟩
      rw [split]
      omega

theorem run_finish (cache : Cache) (calls : List Call) (call : Call) {n : Nat}
    (enough : call.stepsLeft ≤ n) :
    (World.mk cache (calls ++ [call])).run (List.replicate n (.advance calls.length)) =
      ⟨(call.finish cache).2.1, calls ++ [.answered (call.finish cache).1]⟩ := by
  induction n generalizing cache call with
  | zero =>
      rcases Call.exists_answered (Nat.le_zero.mp enough) with ⟨shared, rfl⟩
      rw [Call.finish]
      rfl
  | succ n ih =>
      have less : (call.step cache).1.stepsLeft ≤ n :=
        Nat.le_trans (call.stepsLeft_step cache) (Nat.sub_le_of_le_add enough)
      have moved : (World.mk cache (calls ++ [call])).move (.advance calls.length) =
          ⟨(call.step cache).2.1, calls ++ [(call.step cache).1]⟩ := by
        simp [World.move]
      rcases call.finish_step cache with ⟨shared, after⟩
      rw [List.replicate_succ, run_cons, moved, ih _ _ less, shared, after]

/-- A call that nothing comes between is answered as `Cache.get` answers it. -/
theorem run_wholeCall (world : World) (text : String) :
    world.run (wholeCall world.calls.length text) =
      ⟨(world.cache.get text).2.1, world.calls ++ [.answered (world.cache.get text).1]⟩ :=
  run_finish world.cache world.calls (.asked text) (Nat.le_refl 4)

end World

end Stencil
