import Stencil.Proofs.Cache.Moves

/-!
Calls for one text that run at the same time, with no other call and no clearing beside them. What
the first of them stores answers all of them, unless one clears the cache after it: a call that has
found the text absent tests only later whether the cache is full. So the calls agree in every order
of their steps exactly if there is only one of them, or the text was stored before them, or the
cache has room for two more entries.
-/

namespace Stencil

def Cache.insert (cache : Cache) (fresh : Shared) : Cache :=
  { cache with entries := (fresh.template.text, fresh) :: cache.entries }

namespace Cache

variable (cache : Cache) (fresh : Shared)

theorem find?_insert : (cache.insert fresh).find? fresh.template.text = some fresh :=
  List.lookup_cons_self

theorem size_insert : (cache.insert fresh).size = cache.size + 1 := rfl

theorem limits_insert : (cache.insert fresh).limits = cache.limits := rfl

theorem find?_clear (text : String) : cache.clear.find? text = none := rfl

end Cache

namespace Call

def isOverfull : Call → Bool
  | overfull _ => true
  | asked _ | absent _ | storing _ | answered _ => false

def Seeks (text : String) : Call → Prop
  | asked other => other = text
  | absent fresh | overfull fresh | storing fresh => fresh.template.text = text
  | answered _ => False

/-- The call is answered with what is stored for the text, or will be: it clears nothing before. -/
def Yields (cache : Cache) (text : String) (stored : Shared) : Call → Prop
  | asked other => other = text
  | absent fresh => fresh.template.text = text ∧ cache.size < cache.limits.maxEntries
  | overfull _ => False
  | storing fresh => fresh.template.text = text
  | answered shared => shared = stored

theorem Seeks.yields {cache : Cache} {text : String} {call : Call} (seeks : call.Seeks text)
    (spares : call.isOverfull = false) (room : cache.size < cache.limits.maxEntries)
    (stored : Shared) : call.Yields cache text stored := by
  cases call with
  | asked | storing => exact seeks
  | absent => exact ⟨seeks, room⟩
  | overfull => cases spares
  | answered => cases seeks

end Call

namespace World

/-- None of the calls has stored the text. If there are more than one, none of them will find the
cache full, not even after one of them has stored. -/
structure Open (text : String) (world : World) : Prop where
  storable : world.cache.limits.Storable text
  unknown : world.cache.find? text = none
  calls : ∀ call ∈ world.calls, call.Seeks text
  room : 1 < world.calls.length →
    world.cache.size + 2 ≤ world.cache.limits.maxEntries ∧
      ∀ call ∈ world.calls, call.isOverfull = false

structure Settled (text : String) (stored : Shared) (world : World) : Prop where
  found : world.cache.find? text = some stored
  calls : ∀ call ∈ world.calls, call.Yields world.cache text stored

def IsAgreeing (text : String) (world : World) : Prop :=
  world.Open text ∨ ∃ stored, world.Settled text stored

theorem forall_mem_set {calls : List Call} {holds : Call → Prop}
    (all : ∀ call ∈ calls, holds call) (i : Nat) {next : Call} (new : holds next) :
    ∀ call ∈ calls.set i next, holds call := by
  intro call member
  rcases List.mem_or_eq_of_mem_set member with earlier | rfl
  · exact all call earlier
  · exact new

variable {text : String} {stored : Shared} {world after : World}

theorem Open.set (opened : world.Open text) (i : Nat) (next : Call) (cache : Cache)
    (limits : cache.limits = world.cache.limits) (unknown : cache.find? text = none)
    (seeks : next.Seeks text)
    (room : 1 < world.calls.length → cache.size = world.cache.size ∧ next.isOverfull = false) :
    (World.mk cache (world.calls.set i next)).Open text := by
  refine ⟨?_, unknown, forall_mem_set opened.calls i seeks, ?_⟩
  · rw [limits]
    exact opened.storable
  · intro many
    rw [List.length_set] at many
    rcases room many with ⟨size, spares⟩
    rcases opened.room many with ⟨free, others⟩
    refine ⟨?_, forall_mem_set others i spares⟩
    rw [limits, size]
    exact free

theorem Open.store (opened : world.Open text) {i : Nat} {fresh : Shared}
    (found : world.calls[i]? = some (.storing fresh)) :
    (World.mk (world.cache.insert fresh) (world.calls.set i (.answered fresh))).Settled
      text fresh := by
  have own : fresh.template.text = text := opened.calls _ (List.mem_of_getElem? found)
  constructor
  · rw [← own]
    exact world.cache.find?_insert fresh
  · by_cases many : 1 < world.calls.length
    · rcases opened.room many with ⟨free, others⟩
      intro call member
      rcases List.mem_or_eq_of_mem_set member with earlier | rfl
      · have room : (world.cache.insert fresh).size <
            (world.cache.insert fresh).limits.maxEntries := by
          rw [Cache.size_insert, Cache.limits_insert]
          exact free
        exact (opened.calls call earlier).yields (others call earlier) room fresh
      · rfl
    · -- The call is alone, so no other one is left to be settled.
      rcases List.getElem?_eq_some_iff.mp found with ⟨inside, -⟩
      rcases List.length_eq_one_iff.mp (by omega : world.calls.length = 1) with ⟨call, alone⟩
      have first : i = 0 := by omega
      simp [alone, first, Call.Yields]

theorem Open.moves {i : Nat} (opened : world.Open text)
    (moves : world.Moves (.advance i) after) : after.IsAgreeing text := by
  cases moves with
  | idle => exact .inl opened
  | advance found steps =>
      have seeks := opened.calls _ (List.mem_of_getElem? found)
      have unknown := opened.unknown
      cases steps with
      | hit known =>
          rw [show _ = text from seeks, unknown] at known
          cases known
      | pass refused =>
          rw [show _ = text from seeks] at refused
          exact absurd opened.storable refused
      | miss =>
          left
          exact opened.set i _ _ rfl unknown seeks fun _ => ⟨rfl, rfl⟩
      | full fresh full =>
          left
          apply opened.set i (.overfull fresh) world.cache rfl unknown seeks
          intro many
          have free := (opened.room many).1
          omega
      | room fresh room =>
          left
          exact opened.set i _ _ rfl unknown seeks fun _ => ⟨rfl, rfl⟩
      | evict fresh =>
          left
          apply opened.set i (.storing fresh) world.cache.clear rfl rfl seeks
          intro many
          cases (opened.room many).2 _ (List.mem_of_getElem? found)
      | raced known =>
          rw [show _ = text from seeks, unknown] at known
          cases known
      | store fresh =>
          right
          exact ⟨fresh, opened.store found⟩
      | rest => cases seeks

theorem Settled.moves {i : Nat} (settled : world.Settled text stored)
    (moves : world.Moves (.advance i) after) : after.Settled text stored := by
  rcases settled with ⟨known, calls⟩
  cases moves with
  | idle => exact ⟨known, calls⟩
  | advance found steps =>
      have yields := calls _ (List.mem_of_getElem? found)
      cases steps with
      | hit other =>
          rw [show _ = text from yields, known] at other
          exact ⟨known, forall_mem_set calls i (Option.some.inj other).symm⟩
      | miss _ unknown | pass _ unknown =>
          rw [show _ = text from yields, known] at unknown
          cases unknown
      | full fresh full =>
          have room := yields.2
          omega
      | room fresh room => exact ⟨known, forall_mem_set calls i yields.1⟩
      | evict => cases yields
      | raced other =>
          rw [show _ = text from yields, known] at other
          exact ⟨known, forall_mem_set calls i (Option.some.inj other).symm⟩
      | store fresh unknown =>
          rw [show _ = text from yields, known] at unknown
          cases unknown
      | rest => exact ⟨known, forall_mem_set calls i yields⟩

theorem IsAgreeing.moves {i : Nat} (agreeing : world.IsAgreeing text)
    (moves : world.Moves (.advance i) after) : after.IsAgreeing text := by
  rcases agreeing with opened | ⟨stored, settled⟩
  · exact opened.moves moves
  · exact .inr ⟨stored, settled.moves moves⟩

/-- What each step of a call keeps holds after all of them. -/
theorem kept_turns (kept : World → Prop)
    (step : ∀ {world after : World} {i : Nat},
      kept world → world.Moves (.advance i) after → kept after)
    {world : World} (start : kept world) (order : List Nat) :
    kept (world.run (order.map .advance)) := by
  induction order generalizing world with
  | nil => exact start
  | cons i rest ih => exact ih (step start (world.moves_move (.advance i)))

theorem answered_run {i : Nat} (answered : world.calls[i]? = some (.answered stored))
    (order : List Nat) :
    (world.run (order.map .advance)).calls[i]? = some (.answered stored) := by
  apply kept_turns (fun world => world.calls[i]? = some (.answered stored)) _ answered
  intro world after j answered moves
  cases moves with
  | idle => exact answered
  | advance found steps =>
      by_cases own : j = i
      · subst own
        rw [answered] at found
        rcases Option.some.inj found with rfl
        cases steps
        rw [List.getElem?_set_self', answered]
        rfl
      · rw [List.getElem?_set_ne own]
        exact answered

theorem length_calls_turns (world : World) (order : List Nat) :
    (world.run (order.map .advance)).calls.length = world.calls.length := by
  apply kept_turns (fun after => after.calls.length = world.calls.length) _ rfl
  intro before after i same moves
  cases moves with
  | idle => exact same
  | advance => rw [List.length_set, same]

theorem turns_map_advance (i : Nat) (order : List Nat) :
    turns i (order.map .advance) = order.count i := by
  rw [turns, List.countP_map]
  rfl

def rounds (n : Nat) : List Nat :=
  List.range n ++ List.range n ++ List.range n ++ List.range n

theorem count_rounds {i n : Nat} (inside : i < n) : (rounds n).count i = 4 := by
  have once : (List.range n).count i = 1 := by
    rw [List.nodup_range.count, if_pos (List.mem_range.mpr inside)]
  simp only [rounds, List.count_append, once]

theorem inFlight_rounds (world : World) :
    (world.run ((rounds world.calls.length).map .advance)).inFlight = 0 := by
  apply List.countP_eq_zero.mpr
  intro later member
  rcases List.getElem?_of_mem member with ⟨i, place⟩
  have inside : i < world.calls.length := by
    rw [← length_calls_turns world]
    exact (List.getElem?_eq_some_iff.mp place).1
  rcases exists_call_run (List.getElem?_eq_getElem inside)
    ((rounds world.calls.length).map .advance) with ⟨same, found, less⟩
  rw [place] at found
  rcases Option.some.inj found with rfl
  rw [turns_map_advance, count_rounds inside] at less
  have most := world.calls[i].stepsLeft_le
  have done : later.stepsLeft = 0 := by omega
  simp [done]

end World

namespace Call

variable {cache : Cache} {text : String} {fresh : Shared}

theorem step_asked_of_unknown (unknown : cache.find? text = none)
    (storable : cache.limits.Storable text) :
    (asked text).step cache =
      (absent ⟨cache.next, .parse text⟩, { cache with next := cache.next + 1 },
        Event.ofParse text) := by
  have admits := (Cache.admits_iff { cache with next := cache.next + 1 } text).mpr storable
  rw [step, unknown]
  exact if_pos admits

theorem step_absent_of_room (room : cache.size < cache.limits.maxEntries) :
    (absent fresh).step cache = (storing fresh, cache, []) := by
  rw [step, cache.isFull_eq_false_iff.mpr room]
  rfl

theorem step_absent_of_full (full : cache.limits.maxEntries ≤ cache.size) :
    (absent fresh).step cache =
      (overfull fresh, cache, [.cacheFull cache.limits.maxEntries]) := by
  rw [step, cache.isFull_iff.mpr full]
  rfl

theorem step_overfull : (overfull fresh).step cache = (storing fresh, cache.clear, []) := rfl

theorem step_storing_of_unknown (unknown : cache.find? fresh.template.text = none) :
    (storing fresh).step cache = (answered fresh, cache.insert fresh, []) := by
  rw [step, unknown]
  rfl

end Call

namespace World

variable {cache : Cache} {text : String} {a b : Shared}

theorem move_first (cache : Cache) (call : Call) (calls : List Call) :
    (World.mk cache (call :: calls)).move (.advance 0) =
      ⟨(call.step cache).2.1, (call.step cache).1 :: calls⟩ := rfl

theorem move_second (cache : Cache) (first call : Call) (calls : List Call) :
    (World.mk cache (first :: call :: calls)).move (.advance 1) =
      ⟨(call.step cache).2.1, first :: (call.step cache).1 :: calls⟩ := rfl

theorem run_nil (world : World) : world.run [] = world := rfl

theorem run_last_place (unknown : cache.find? a.template.text = none)
    (last : cache.size + 1 = cache.limits.maxEntries) (calls : List Call) :
    ((World.mk cache (.absent a :: .absent b :: calls)).run
      ([0, 0, 1, 1, 1].map .advance)).calls = .answered a :: .answered b :: calls := by
  have room : cache.size < cache.limits.maxEntries := by omega
  have full : (cache.insert a).limits.maxEntries ≤ (cache.insert a).size := by
    rw [Cache.limits_insert, Cache.size_insert]
    exact Nat.le_of_eq last.symm
  simp only [List.map_cons, List.map_nil, run_cons, run_nil, move_first, move_second,
    Call.step_absent_of_room room, Call.step_storing_of_unknown unknown,
    Call.step_absent_of_full full, Call.step_overfull,
    Call.step_storing_of_unknown (Cache.find?_clear _ _)]

theorem run_overfull (full : cache.limits.maxEntries ≤ cache.size) (calls : List Call) :
    ((World.mk cache (.absent a :: .absent b :: calls)).run
      ([0, 1, 0, 0, 1, 1].map .advance)).calls = .answered a :: .answered b :: calls := by
  simp only [List.map_cons, List.map_nil, run_cons, run_nil, move_first, move_second,
    Call.step_absent_of_full full, Call.step_overfull,
    Call.step_storing_of_unknown (Cache.find?_clear _ _)]

theorem run_lookups (unknown : cache.find? text = none) (storable : cache.limits.Storable text)
    (calls : List Call) :
    (World.mk cache (.asked text :: .asked text :: calls)).run ([0, 1].map .advance) =
      ⟨{ cache with next := cache.next + 2 }, .absent ⟨cache.next, .parse text⟩ ::
        .absent ⟨cache.next + 1, .parse text⟩ :: calls⟩ := by
  have later : Cache.find? { cache with next := cache.next + 1 } text = none := unknown
  simp only [List.map_cons, List.map_nil, run_cons, run_nil, move_first, move_second,
    Call.step_asked_of_unknown unknown storable, Call.step_asked_of_unknown later storable]

theorem exists_two_answers (unknown : cache.find? text = none)
    (storable : cache.limits.Storable text)
    (tight : cache.limits.maxEntries < cache.size + 2) (calls : List Call) :
    ∃ (order : List Nat) (a b : Shared), a ≠ b ∧
      ((World.mk cache (.asked text :: .asked text :: calls)).run (order.map .advance)).calls =
        .answered a :: .answered b :: calls := by
  have different : Shared.mk cache.next (.parse text) ≠ ⟨cache.next + 1, .parse text⟩ := by
    intro same
    have ids : cache.next = cache.next + 1 := congrArg Shared.id same
    omega
  have lookups := run_lookups unknown storable calls
  by_cases full : cache.limits.maxEntries ≤ cache.size
  · refine ⟨[0, 1] ++ [0, 1, 0, 0, 1, 1], _, _, different, ?_⟩
    rw [List.map_append, run_append, lookups]
    apply run_overfull
    exact full
  · refine ⟨[0, 1] ++ [0, 0, 1, 1, 1], _, _, different, ?_⟩
    have last : cache.size + 1 = cache.limits.maxEntries := by omega
    rw [List.map_append, run_append, lookups]
    apply run_last_place
    · exact unknown
    · exact last

def Converges (text : String) (world : World) : Prop :=
  ∃ stored, world.cache.find? text = some stored ∧ ∀ call ∈ world.calls, call = .answered stored

theorem Settled.converges {stored : Shared} {world : World} (settled : world.Settled text stored)
    (finished : world.inFlight = 0) : world.Converges text := by
  refine ⟨stored, settled.found, ?_⟩
  intro call member
  have done := List.countP_eq_zero.mp finished call member
  have yields := settled.calls call member
  cases call with
  | answered shared => exact congrArg Call.answered yields
  | asked | absent | overfull | storing => simp [Call.stepsLeft] at done

theorem Open.inFlight_ne_zero {world : World} (opened : world.Open text)
    (calls : 0 < world.calls.length) : world.inFlight ≠ 0 := by
  intro finished
  have member := List.getElem_mem calls
  have done := List.countP_eq_zero.mp finished _ member
  have seeks := opened.calls _ member
  cases call : world.calls[0] with
  | answered shared =>
      rw [call] at seeks
      cases seeks
  | asked | absent | overfull | storing => simp [call, Call.stepsLeft] at done

end World

namespace Cache

variable {cache : Cache} {text : String} {n : Nat}

theorem length_calls_together (order : List Nat) :
    (cache.together text n order).calls.length = n := by
  rw [together, World.length_calls_turns, List.length_replicate]

theorem together_append (a b : List Nat) :
    cache.together text n (a ++ b) = (cache.together text n a).run (b.map .advance) := by
  rw [together, List.map_append, World.run_append]
  rfl

theorem isAgreeing_together (storable : cache.limits.Storable text)
    (safe : n = 1 ∨ cache.contains text ∨ cache.size + 2 ≤ cache.limits.maxEntries)
    (order : List Nat) : (cache.together text n order).IsAgreeing text := by
  have asked : ∀ call ∈ List.replicate n (Call.asked text), call = .asked text := by
    intro call member
    exact List.eq_of_mem_replicate member
  apply World.kept_turns (World.IsAgreeing text) World.IsAgreeing.moves
  cases known : cache.find? text with
  | some stored =>
      right
      refine ⟨stored, known, ?_⟩
      intro call member
      rw [asked call member]
      rfl
  | none =>
      left
      refine ⟨storable, known, ?_, ?_⟩
      · intro call member
        rw [asked call member]
        rfl
      · intro many
        rw [List.length_replicate] at many
        rcases safe with alone | stored | room
        · omega
        · simp [contains, known] at stored
        · refine ⟨room, ?_⟩
          intro call member
          rw [asked call member]
          rfl

/-- Two calls for an absent text, or more, with no room for two templates: some order of their steps
lets one of them clear the cache after another one has stored and been answered. -/
theorem exists_order_apart (unknown : cache.find? text = none)
    (storable : cache.limits.Storable text)
    (tight : cache.limits.maxEntries < cache.size + 2) (several : 2 ≤ n) :
    ∃ order, (cache.together text n order).inFlight = 0 ∧
      ¬ (cache.together text n order).Converges text := by
  rcases Nat.exists_eq_add_of_le' several with ⟨others, rfl⟩
  rcases World.exists_two_answers unknown storable tight (List.replicate others (.asked text)) with
    ⟨order, a, b, different, answers⟩
  have calls : (cache.together text (others + 2) order).calls =
      .answered a :: .answered b :: List.replicate others (.asked text) := answers
  have first : (cache.together text (others + 2) order).calls[0]? = some (.answered a) := by
    rw [calls]
    rfl
  have second : (cache.together text (others + 2) order).calls[1]? = some (.answered b) := by
    rw [calls]
    rfl
  -- The two answers stay as they are while the other calls go on to theirs.
  refine ⟨order ++ World.rounds (others + 2), ?_, ?_⟩
  · have finished := World.inFlight_rounds (cache.together text (others + 2) order)
    rw [length_calls_together, ← together_append] at finished
    exact finished
  · intro converges
    rw [together_append] at converges
    rcases converges with ⟨stored, -, same⟩
    have one := same _ (List.mem_of_getElem? (World.answered_run first _))
    have other := same _ (List.mem_of_getElem? (World.answered_run second _))
    exact different (Call.answered.inj (one.trans other.symm))

/-- Calls for a text that run at the same time are all answered with the template that the cache
holds for it in the end, whatever the order of their steps, exactly if there is only one call, or
the text is stored before, or there is room for two more templates. -/
theorem together_converges_iff (storable : cache.limits.Storable text) (positive : 0 < n) :
    (∀ order, (cache.together text n order).inFlight = 0 →
        (cache.together text n order).Converges text) ↔
      n = 1 ∨ cache.contains text ∨ cache.size + 2 ≤ cache.limits.maxEntries := by
  constructor
  · intro converges
    by_cases alone : n = 1
    · exact .inl alone
    by_cases known : cache.contains text
    · exact .inr (.inl known)
    by_cases room : cache.size + 2 ≤ cache.limits.maxEntries
    · exact .inr (.inr room)
    have unknown : cache.find? text = none := by simpa [contains] using known
    rcases exists_order_apart unknown storable (by omega) (by omega : 2 ≤ n) with
      ⟨order, finished, apart⟩
    exact absurd (converges order finished) apart
  · intro safe order finished
    rcases isAgreeing_together storable safe order with opened | ⟨stored, settled⟩
    · have calls : (cache.together text n order).calls.length = n := length_calls_together order
      have unfinished := opened.inFlight_ne_zero (by omega)
      exact absurd finished unfinished
    · exact settled.converges finished

theorem together_converges_two_places :
    (Limits.mk 2 9).Storable "a" ∧ 0 < 3 ∧
      ((∀ order, ((Cache.empty ⟨2, 9⟩).together "a" 3 order).inFlight = 0 →
          ((Cache.empty ⟨2, 9⟩).together "a" 3 order).Converges "a") ↔
        3 = 1 ∨ (Cache.empty ⟨2, 9⟩).contains "a" ∨ (Cache.empty ⟨2, 9⟩).size + 2 ≤ 2) ∧
      ((Cache.empty ⟨2, 9⟩).race "a" 3).calls =
        List.replicate 3 (.answered ⟨0, .parse "a"⟩) := by
  have storable : (Limits.mk 2 9).Storable "a" := ⟨by decide, by decide⟩
  refine ⟨storable, by decide, ?_, rfl⟩
  exact together_converges_iff storable (by decide)

/-- With room for one template only, the second of two calls clears what the first one has stored
and been answered with. -/
theorem race_last_place :
    let world := (Cache.empty ⟨1, 9⟩).race "a" 2
    (Limits.mk 1 9).Storable "a" ∧ world.inFlight = 0 ∧
      world.calls = [.answered ⟨0, .parse "a"⟩, .answered ⟨1, .parse "a"⟩] ∧
      world.cache.find? "a" = some ⟨1, .parse "a"⟩ ∧ world.agrees "a" = false ∧
      ¬ world.Converges "a" := by
  have calls : ((Cache.empty ⟨1, 9⟩).race "a" 2).calls =
      [.answered ⟨0, .parse "a"⟩, .answered ⟨1, .parse "a"⟩] := rfl
  have apart : ¬ ((Cache.empty ⟨1, 9⟩).race "a" 2).Converges "a" := by
    intro converges
    rcases converges with ⟨stored, -, same⟩
    rw [calls] at same
    have one := Call.answered.inj (same _ List.mem_cons_self)
    have other := Call.answered.inj (same _ (List.mem_cons_of_mem _ List.mem_cons_self))
    have ids : (0 : Nat) = 1 := congrArg Shared.id (one.trans other.symm)
    exact Nat.zero_ne_one ids
  exact ⟨⟨by decide, by decide⟩, rfl, calls, rfl, rfl, apart⟩

end Cache

end Stencil
