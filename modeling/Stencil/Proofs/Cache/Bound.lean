import Stencil.Cache.Requests
import Stencil.Proofs.Cache.Moves

namespace Stencil

def Call.isStoring : Call → Bool
  | storing _ => true
  | asked _ | absent _ | overfull _ | answered _ => false

namespace World

def storing (world : World) : Nat := world.calls.countP Call.isStoring

/-- The entries, and those that the calls may yet add. -/
def pressure (world : World) : Nat := world.cache.size + world.storing

theorem storing_le_inFlight (world : World) : world.storing ≤ world.inFlight := by
  apply List.countP_mono_left
  intro call member storing
  cases call with
  | storing fresh => rfl
  | asked | absent | overfull | answered => cases storing

theorem storing_set {world : World} {i : Nat} {call : Call} (found : world.calls[i]? = some call)
    (next : Call) (cache : Cache) :
    (World.mk cache (world.calls.set i next)).storing + call.isStoring.toNat =
      world.storing + next.isStoring.toNat := by
  rcases List.getElem?_eq_some_iff.mp found with ⟨inside, rfl⟩
  have indicator (b : Bool) : (if b then 1 else 0) = b.toNat := by cases b <;> rfl
  have counted : world.calls[i].isStoring.toNat ≤ world.storing := by
    cases here : world.calls[i].isStoring with
    | false => exact Nat.zero_le _
    | true => exact List.countP_pos_iff.mpr ⟨_, List.getElem_mem inside, here⟩
  rw [storing, List.countP_set inside, indicator, indicator, ← storing]
  omega

/-- A call that finds room or makes it has at most `k - 1` others beside it; any other step leaves
no more entries and storing calls together than there were. -/
theorem pressure_moves {world after : World} {move : Move} {k : Nat}
    (moves : world.Moves move after) (positive : 0 < world.cache.limits.maxEntries)
    (few : after.inFlight ≤ k) (bounded : world.pressure < world.cache.limits.maxEntries + k) :
    after.pressure < world.cache.limits.maxEntries + k := by
  have waiting : after.storing ≤ k := Nat.le_trans after.storing_le_inFlight few
  cases moves with
  | ask text =>
      have same : (World.mk world.cache (world.calls ++ [.asked text])).storing =
          world.storing := by
        simp [storing, Call.isStoring]
      rw [pressure, same]
      exact bounded
  | idle => exact bounded
  | clear =>
      have same : (World.mk world.cache.clear world.calls).storing = world.storing := rfl
      have emptied : world.cache.clear.size = 0 := rfl
      rw [pressure, same, emptied]
      rw [pressure] at bounded
      omega
  | @advance i call next cache found steps =>
      have count := storing_set found next cache
      rw [pressure] at bounded ⊢
      cases steps with
      | room fresh room =>
          simp only at waiting ⊢
          omega
      | evict fresh =>
          have emptied : world.cache.clear.size = 0 := rfl
          simp only [emptied]
          omega
      | store fresh =>
          simp only [Call.isStoring, Bool.toNat_true, Bool.toNat_false] at count
          simp only [Cache.size, List.length_cons] at bounded ⊢
          omega
      | hit | miss | pass | full | raced | rest =>
          simp only [Call.isStoring, Bool.toNat_true, Bool.toNat_false] at count
          simp only [Cache.size] at bounded ⊢
          omega

theorem pressure_run {world : World} {k : Nat} (moves : List Move)
    (positive : 0 < world.cache.limits.maxEntries)
    (few : ∀ n, (world.run (moves.take n)).inFlight ≤ k)
    (bounded : world.pressure < world.cache.limits.maxEntries + k) :
    (world.run moves).pressure < world.cache.limits.maxEntries + k := by
  induction moves generalizing world with
  | nil => exact bounded
  | cons move rest ih =>
      have same : (world.move move).cache.limits = world.cache.limits := limits_run world [move]
      have next := pressure_moves (world.moves_move move) positive (few 1) bounded
      rw [← same] at positive next ⊢
      apply ih positive _ next
      intro n
      exact few (n + 1)

theorem size_run_le {world : World} {k : Nat} (moves : List Move)
    (positive : 0 < world.cache.limits.maxEntries)
    (few : ∀ n, (world.run (moves.take n)).inFlight ≤ k)
    (bounded : world.pressure < world.cache.limits.maxEntries + k) :
    (world.run moves).cache.size ≤ world.cache.limits.maxEntries + k - 1 := by
  have pressed := pressure_run moves positive few bounded
  have part : (world.run moves).cache.size ≤ (world.run moves).pressure := Nat.le_add_right _ _
  omega

end World

namespace Cache

theorem serve_get (cache : Cache) (text : String) :
    cache.serve (.get text) = ((World.mk cache []).run (wholeCall 0 text)).cache :=
  (congrArg World.cache (World.run_wholeCall (World.mk cache []) text)).symm

theorem limits_serve (cache : Cache) (request : Request) :
    (cache.serve request).limits = cache.limits := by
  cases request with
  | get text =>
      rw [serve_get]
      exact World.limits_run (World.mk cache []) (wholeCall 0 text)
  | contains | clear => rfl

theorem size_serve_le {cache : Cache} (positive : 0 < cache.limits.maxEntries)
    (bounded : cache.size ≤ cache.limits.maxEntries) (request : Request) :
    (cache.serve request).size ≤ cache.limits.maxEntries := by
  cases request with
  | contains text => exact bounded
  | clear => exact Nat.zero_le _
  | get text =>
      have few := World.inFlight_take_le cache (wholeCall 0 text)
      have start : (World.mk cache []).pressure < cache.limits.maxEntries + 1 :=
        Nat.lt_succ_of_le bounded
      rw [serve_get]
      exact World.size_run_le (wholeCall 0 text) positive few start

theorem size_serveAll_le {cache : Cache} (positive : 0 < cache.limits.maxEntries)
    (bounded : cache.size ≤ cache.limits.maxEntries) (requests : List Request) :
    (cache.serveAll requests).size ≤ cache.limits.maxEntries := by
  induction requests generalizing cache with
  | nil => exact bounded
  | cons request rest ih =>
      have same := cache.limits_serve request
      have next := size_serve_le positive bounded request
      rw [← same] at positive next ⊢
      exact ih positive next

/-- While at most `k` calls are in flight at once, the cache never holds more than `k - 1` entries
above its limit; and never more than the limit, if calls are made one after the other. -/
theorem size_le (limits : Limits) (positive : 0 < limits.maxEntries) :
    (∀ (k : Nat) (moves : List Move),
      (∀ n, ((World.mk (.empty limits) []).run (moves.take n)).inFlight ≤ k) →
        ∀ n, ((World.mk (.empty limits) []).run (moves.take n)).cache.size ≤
          limits.maxEntries + k - 1) ∧
      ∀ requests, ((Cache.empty limits).serveAll requests).size ≤ limits.maxEntries := by
  constructor
  · intro k moves few n
    have start : (World.mk (.empty limits) []).pressure < limits.maxEntries + k :=
      Nat.lt_add_right k positive
    apply World.size_run_le (moves.take n) positive _ start
    intro m
    rw [List.take_take]
    exact few (min m n)
  · intro requests
    have start : (Cache.empty limits).size ≤ limits.maxEntries := Nat.zero_le _
    exact size_serveAll_le positive start requests

theorem size_le_reached :
    let moves : List Move := [.ask "a", .ask "b", .advance 0, .advance 1, .advance 0, .advance 1,
      .advance 0, .advance 1]
    let world := (World.mk (.empty ⟨1, 9⟩) []).run (moves.take 8)
    (∀ n, ((World.mk (.empty ⟨1, 9⟩) []).run (moves.take n)).inFlight ≤ 2) ∧
      world.cache.size = 2 ∧ world.cache.size ≤ 1 + 2 - 1 ∧
      ((Cache.empty ⟨1, 9⟩).serveAll [.get "a", .get "b", .clear, .get "a"]).size ≤ 1 := by
  intro moves world
  rcases size_le ⟨1, 9⟩ Nat.one_pos with ⟨together, alone⟩
  have few := World.inFlight_take_le (.empty ⟨1, 9⟩) moves
  exact ⟨few, rfl, together 2 moves few 8, alone _⟩

end Cache

end Stencil
