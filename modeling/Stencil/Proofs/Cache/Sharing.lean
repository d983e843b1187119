import Mathlib.Data.List.Basic
import Mathlib.Data.List.Induction
import Stencil.Proofs.Cache.Agreement
import Stencil.Proofs.Cache.Bound

/-!
Which requests are answered with the same template, if they are made one after the other. A template
stays stored, and is given for its text, until a request empties the cache: one that clears it, or
one for another text that finds it full. So the texts stored are those asked for since.
-/

namespace Stencil

namespace Call

def Ends (call : Call) (cache : Cache) (shared : Shared) (after : Cache) : Prop :=
  (call.finish cache).1 = shared ∧ (call.finish cache).2.1 = after

theorem ends_answered (shared : Shared) (cache : Cache) :
    (answered shared).Ends cache shared cache := by
  rw [Ends, finish]
  exact ⟨rfl, rfl⟩

theorem Ends.of_step {call next : Call} {cache between after : Cache} {shared : Shared}
    {events : List Event} (ends : next.Ends between shared after)
    (step : call.step cache = (next, between, events)) : call.Ends cache shared after := by
  obtain ⟨answer, left⟩ := call.finish_step cache
  rw [step] at answer left
  exact ⟨answer ▸ ends.1, left ▸ ends.2⟩

end Call

namespace Cache

def counted (cache : Cache) : Cache := { cache with next := cache.next + 1 }

inductive Gets (cache : Cache) (text : String) : Shared → Cache → Prop
  | hit {shared : Shared} (found : cache.find? text = some shared) :
      Gets cache text shared cache
  | pass (unknown : cache.find? text = none) (refused : ¬ cache.limits.Storable text) :
      Gets cache text ⟨cache.next, .parse text⟩ cache.counted
  | store (unknown : cache.find? text = none) (storable : cache.limits.Storable text)
      (room : cache.size < cache.limits.maxEntries) :
      Gets cache text ⟨cache.next, .parse text⟩ (cache.counted.insert ⟨cache.next, .parse text⟩)
  | evict (unknown : cache.find? text = none) (storable : cache.limits.Storable text)
      (full : cache.limits.maxEntries ≤ cache.size) :
      Gets cache text ⟨cache.next, .parse text⟩
        (cache.counted.clear.insert ⟨cache.next, .parse text⟩)

theorem Gets.of_ends {cache after : Cache} {text : String} {shared : Shared}
    (gets : cache.Gets text shared after) (ends : (Call.asked text).Ends cache shared after) :
    cache.Gets text (cache.get text).1 (cache.get text).2.1 := by
  rw [get, ends.1, ends.2]
  exact gets

theorem gets_get (cache : Cache) (text : String) :
    cache.Gets text (cache.get text).1 (cache.get text).2.1 := by
  let fresh : Shared := ⟨cache.next, .parse text⟩
  cases known : cache.find? text with
  | some shared =>
      have step : (Call.asked text).step cache = (.answered shared, cache, [.cacheHit text]) := by
        rw [Call.step, known]
      exact (Gets.hit known).of_ends ((Call.ends_answered shared cache).of_step step)
  | none =>
      have unknown : cache.counted.find? fresh.template.text = none := known
      by_cases storable : cache.limits.Storable text
      · have asked : (Call.asked text).step cache = (.absent fresh, cache.counted, _) :=
          Call.step_asked_of_unknown known storable
        obtain room | full := Nat.lt_or_ge cache.size cache.limits.maxEntries
        · have free : cache.counted.size < cache.counted.limits.maxEntries := room
          have stored := (Call.ends_answered fresh _).of_step (Call.step_storing_of_unknown unknown)
          have ends := (stored.of_step (Call.step_absent_of_room free)).of_step asked
          exact (Gets.store known storable room).of_ends ends
        · have none_free : cache.counted.limits.maxEntries ≤ cache.counted.size := full
          have stored := (Call.ends_answered fresh _).of_step
            (Call.step_storing_of_unknown (find?_clear cache.counted fresh.template.text))
          have cleared := stored.of_step Call.step_overfull
          have ends := (cleared.of_step (Call.step_absent_of_full none_free)).of_step asked
          exact (Gets.evict known storable full).of_ends ends
      · have step : (Call.asked text).step cache = (.answered fresh, cache.counted,
            Event.ofParse text ++ [.uncacheable text.utf8ByteSize]) := by
          rw [Call.step, known]
          exact if_neg (mt (cache.counted.admits_iff text).mp storable)
        exact (Gets.pass known storable).of_ends ((Call.ends_answered fresh _).of_step step)

def texts (cache : Cache) : List String := cache.entries.map Prod.fst

theorem find?_eq_none_iff (cache : Cache) (text : String) :
    cache.find? text = none ↔ text ∉ cache.texts := by
  rw [find?, List.lookup_eq_none_iff, texts, List.mem_map]
  constructor
  · rintro absent ⟨entry, member, rfl⟩
    simpa using absent entry member
  · intro absent entry member
    rw [bne_iff_ne]
    rintro rfl
    exact absent ⟨entry, member, rfl⟩

theorem contains_iff_mem (cache : Cache) (text : String) :
    cache.contains text ↔ text ∈ cache.texts := by
  rw [contains, ← not_iff_not, ← find?_eq_none_iff, Bool.not_eq_true, Option.isSome_eq_false_iff,
    Option.isNone_iff_eq_none]

/-- The request empties the cache: it clears it, or it asks for a text that may be stored and is
not, when as many are as the limit allows. -/
def Empties (cache : Cache) : Request → Prop
  | .get text => cache.limits.Storable text ∧ ¬ cache.contains text ∧
      cache.size = cache.limits.maxEntries
  | .contains _ => False
  | .clear => True

/-- None of the requests, answered one after the other, empties the cache. -/
def Outlasts (cache : Cache) : List Request → Prop
  | [] => True
  | request :: rest => ¬ cache.Empties request ∧ (cache.serve request).Outlasts rest

/-- A cache as requests made one after the other leave it. Its templates have been parsed under
numbers from `first` on. -/
structure IsOrderly (first : Nat) (cache : Cache) : Prop where
  storable : ∀ text ∈ cache.texts, cache.limits.Storable text
  distinct : cache.texts.Nodup
  size_le : cache.size ≤ cache.limits.maxEntries
  first_le : first ≤ cache.next
  numbers : ∀ entry ∈ cache.entries, first ≤ entry.2.id ∧ entry.2.id < cache.next

theorem isOrderly_empty (limits : Limits) : (empty limits).IsOrderly 0 := by
  constructor <;> simp [empty, texts, size]

section

variable {first n : Nat} {cache after : Cache} {text : String} {shared : Shared}

namespace IsOrderly

theorem of_le (orderly : cache.IsOrderly n) (le : first ≤ n) : cache.IsOrderly first :=
  { orderly with
    first_le := Nat.le_trans le orderly.first_le
    numbers := fun entry member =>
      ⟨Nat.le_trans le (orderly.numbers entry member).1, (orderly.numbers entry member).2⟩ }

theorem clear (cache : Cache) : cache.clear.IsOrderly cache.next := by
  constructor <;> simp [Cache.clear, texts, size]

theorem counted (orderly : cache.IsOrderly first) : cache.counted.IsOrderly first :=
  { orderly with
    first_le := Nat.le_succ_of_le orderly.first_le
    numbers := fun entry member =>
      ⟨(orderly.numbers entry member).1, Nat.lt_succ_of_lt (orderly.numbers entry member).2⟩ }

theorem insert (orderly : cache.IsOrderly first) (unknown : cache.find? text = none)
    (storable : cache.limits.Storable text) (room : cache.size < cache.limits.maxEntries) :
    (cache.counted.insert ⟨cache.next, .parse text⟩).IsOrderly first := by
  have absent := (cache.find?_eq_none_iff text).mp unknown
  constructor
  · exact List.forall_mem_cons.mpr ⟨storable, orderly.storable⟩
  · exact List.nodup_cons.mpr ⟨absent, orderly.distinct⟩
  · exact room
  · exact orderly.counted.first_le
  · exact List.forall_mem_cons.mpr
      ⟨⟨orderly.first_le, Nat.lt_succ_self cache.next⟩, orderly.counted.numbers⟩

end IsOrderly

namespace Gets

theorem isOrderly (gets : cache.Gets text shared after) (orderly : cache.IsOrderly first) :
    after.IsOrderly first := by
  cases gets with
  | hit => exact orderly
  | pass => exact orderly.counted
  | store unknown storable room => exact orderly.insert unknown storable room
  | evict unknown storable =>
      have cleared := (IsOrderly.clear cache).insert (find?_clear cache text) storable storable.1
      exact cleared.of_le orderly.first_le

theorem first_le_id (gets : cache.Gets text shared after) (orderly : cache.IsOrderly first) :
    first ≤ shared.id := by
  cases gets with
  | hit found => exact (orderly.numbers _ (mem_of_find? found)).1
  | pass | store | evict => exact orderly.first_le

theorem id_lt_next (gets : cache.Gets text shared after) (orderly : cache.IsOrderly first) :
    shared.id < after.next := by
  cases gets with
  | hit found => exact (orderly.numbers _ (mem_of_find? found)).2
  | pass | store | evict => exact Nat.lt_succ_self cache.next

theorem next_le (gets : cache.Gets text shared after) : cache.next ≤ after.next := by
  cases gets with
  | hit => exact Nat.le_refl _
  | pass | store | evict => exact Nat.le_succ cache.next

theorem find?_eq (gets : cache.Gets text shared after) (storable : cache.limits.Storable text) :
    after.find? text = some shared := by
  cases gets with
  | hit found => exact found
  | pass _ refused => exact absurd storable refused
  | store | evict => exact find?_insert _ ⟨cache.next, .parse text⟩

theorem eq_of_found (gets : cache.Gets text shared after) {stored : Shared}
    (found : cache.find? text = some stored) : shared = stored := by
  cases gets with
  | hit same => exact Option.some.inj (same.symm.trans found)
  | pass unknown | store unknown | evict unknown =>
      rw [unknown] at found
      cases found

theorem id_eq_of_refused (gets : cache.Gets text shared after) (orderly : cache.IsOrderly first)
    (refused : ¬ cache.limits.Storable text) : shared.id = cache.next := by
  cases gets with
  | hit found =>
      have stored : text ∈ cache.texts := List.mem_map_of_mem (mem_of_find? found)
      exact absurd (orderly.storable text stored) refused
  | pass | store | evict => rfl

theorem entries_eq (gets : cache.Gets text shared after)
    (idle : cache.contains text ∨ ¬ cache.limits.Storable text) :
    after.entries = cache.entries := by
  have stays : cache.find? text ≠ none ∨ ¬ cache.limits.Storable text := by
    rwa [Ne, find?_eq_none_iff, not_not, ← contains_iff_mem]
  cases gets with
  | hit | pass => rfl
  | store unknown storable | evict unknown storable =>
      exact absurd storable (stays.resolve_left (not_not_intro unknown))

theorem mem_texts_iff (gets : cache.Gets text shared after) (orderly : cache.IsOrderly first)
    (other : String) :
    other ∈ after.texts ↔ other ∈ cache.texts ∧ ¬ cache.Empties (.get text) ∨
      other = text ∧ cache.limits.Storable text := by
  rw [Empties, contains_iff_mem]
  cases gets with
  | hit found =>
      have known : text ∈ cache.texts := by
        rw [← contains_iff_mem, contains, found]
        rfl
      constructor
      · exact fun member => .inl ⟨member, fun empties => empties.2.1 known⟩
      · rintro (⟨member, -⟩ | ⟨rfl, -⟩)
        · exact member
        · exact known
  | pass _ refused => simp [counted, texts, refused]
  | store _ storable room =>
      have added : (cache.counted.insert ⟨cache.next, .parse text⟩).texts = text :: cache.texts :=
        rfl
      simp [added, storable, Nat.ne_of_lt room, or_comm]
  | evict unknown storable full =>
      have only : (cache.counted.clear.insert ⟨cache.next, .parse text⟩).texts = [text] := rfl
      have absent := (cache.find?_eq_none_iff text).mp unknown
      have size := Nat.le_antisymm orderly.size_le full
      simp [only, storable, absent, size]

/-- A request that does not empty the cache leaves what is stored for other texts as it is. -/
theorem find?_of_found (gets : cache.Gets text shared after) (orderly : cache.IsOrderly first)
    (stays : ¬ cache.Empties (.get text)) {other : String} {stored : Shared}
    (found : cache.find? other = some stored) : after.find? other = some stored := by
  cases gets with
  | hit | pass => exact found
  | store unknown =>
      have apart : other ≠ text := by
        rintro rfl
        rw [unknown] at found
        cases found
      have behind : (other == text) = false := beq_eq_false_iff_ne.mpr apart
      simpa [find?, insert, counted, Template.parse, List.lookup_cons, behind] using found
  | evict unknown storable full =>
      have absent : ¬ cache.contains text := by
        rw [contains, unknown]
        exact Bool.false_ne_true
      exact absurd ⟨storable, absent, Nat.le_antisymm orderly.size_le full⟩ stays

theorem isOrderly_of_empties (gets : cache.Gets text shared after)
    (empties : cache.Empties (.get text)) : after.IsOrderly cache.next := by
  obtain ⟨storable, absent, full⟩ := empties
  cases gets with
  | hit found =>
      rw [contains, found] at absent
      exact absurd rfl absent
  | pass _ refused => exact absurd storable refused
  | store _ _ room => exact absurd full (Nat.ne_of_lt room)
  | evict => exact (IsOrderly.clear cache).insert (find?_clear cache text) storable storable.1

end Gets

variable {requests : List Request} {request : Request}

theorem IsOrderly.serve (orderly : cache.IsOrderly first) (request : Request) :
    (cache.serve request).IsOrderly first := by
  cases request with
  | get text => exact (cache.gets_get text).isOrderly orderly
  | contains => exact orderly
  | clear => exact (IsOrderly.clear cache).of_le orderly.first_le

theorem IsOrderly.serveAll (orderly : cache.IsOrderly first) (requests : List Request) :
    (cache.serveAll requests).IsOrderly first := by
  induction requests generalizing cache with
  | nil => exact orderly
  | cons request rest ih => exact ih (orderly.serve request)

theorem isOrderly_serve_of_empties (empties : cache.Empties request) :
    (cache.serve request).IsOrderly cache.next := by
  cases request with
  | get text => exact (cache.gets_get text).isOrderly_of_empties empties
  | contains => cases empties
  | clear => exact .clear cache

theorem next_le_serve (cache : Cache) (request : Request) :
    cache.next ≤ (cache.serve request).next := by
  cases request with
  | get text => exact (cache.gets_get text).next_le
  | contains | clear => exact Nat.le_refl cache.next

theorem next_le_serveAll (cache : Cache) (requests : List Request) :
    cache.next ≤ (cache.serveAll requests).next := by
  induction requests generalizing cache with
  | nil => exact Nat.le_refl cache.next
  | cons request rest ih => exact Nat.le_trans (cache.next_le_serve request) (ih _)

theorem serveAll_append (cache : Cache) (a b : List Request) :
    cache.serveAll (a ++ b) = (cache.serveAll a).serveAll b := List.foldl_append

theorem limits_serveAll (cache : Cache) (requests : List Request) :
    (cache.serveAll requests).limits = cache.limits := by
  induction requests generalizing cache with
  | nil => rfl
  | cons request rest ih => exact (ih (cache.serve request)).trans (cache.limits_serve request)

theorem outlasts_append (cache : Cache) (a b : List Request) :
    cache.Outlasts (a ++ b) ↔ cache.Outlasts a ∧ (cache.serveAll a).Outlasts b := by
  induction a generalizing cache with
  | nil => simp [Outlasts, serveAll]
  | cons request rest ih =>
      rw [List.cons_append, Outlasts, Outlasts, ih, and_assoc]
      rfl

theorem find?_serveAll (orderly : cache.IsOrderly first) (found : cache.find? text = some shared)
    (outlasts : cache.Outlasts requests) : (cache.serveAll requests).find? text = some shared := by
  induction requests generalizing cache with
  | nil => exact found
  | cons request rest ih =>
      apply ih (orderly.serve request) _ outlasts.2
      cases request with
      | get other => exact (cache.gets_get other).find?_of_found orderly outlasts.1 found
      | contains => exact found
      | clear => exact absurd trivial outlasts.1

/-- Where a cache has been emptied, nothing in it was parsed before. -/
theorem isOrderly_of_not_outlasts (orderly : cache.IsOrderly first)
    (emptied : ¬ cache.Outlasts requests) : (cache.serveAll requests).IsOrderly cache.next := by
  induction requests generalizing cache with
  | nil => exact absurd trivial emptied
  | cons request rest ih =>
      by_cases empties : cache.Empties request
      · exact (isOrderly_serve_of_empties empties).serveAll rest
      · have later : ¬ (cache.serve request).Outlasts rest := fun outlasts =>
          emptied ⟨empties, outlasts⟩
        exact (ih (orderly.serve request) later).of_le (cache.next_le_serve request)

theorem get_of_outlasts (orderly : cache.IsOrderly first) (found : cache.find? text = some shared)
    (outlasts : cache.Outlasts requests) : ((cache.serveAll requests).get text).1 = shared :=
  (gets_get _ text).eq_of_found (find?_serveAll orderly found outlasts)

theorem next_le_id (orderly : cache.IsOrderly first)
    (lost : ¬ (cache.limits.Storable text ∧ cache.Outlasts requests)) :
    cache.next ≤ ((cache.serveAll requests).get text).1.id := by
  have gets := (cache.serveAll requests).gets_get text
  by_cases storable : cache.limits.Storable text
  · have emptied : ¬ cache.Outlasts requests := fun outlasts => lost ⟨storable, outlasts⟩
    exact gets.first_le_id (isOrderly_of_not_outlasts orderly emptied)
  · rw [← cache.limits_serveAll requests] at storable
    rw [gets.id_eq_of_refused (orderly.serveAll requests) storable]
    exact cache.next_le_serveAll requests

/-- A text asked for twice is answered alike if it may be stored and the cache is not emptied
between. Otherwise it is parsed anew. -/
theorem get_again (orderly : cache.IsOrderly first) (text : String) (between : List Request) :
    let earlier := (cache.get text).1
    let later := (((cache.serve (.get text)).serveAll between).get text).1
    (later.id = earlier.id ↔
        cache.limits.Storable text ∧ (cache.serve (.get text)).Outlasts between) ∧
      (later.id = earlier.id → later = earlier) := by
  intro earlier later
  have gets := cache.gets_get text
  have served := orderly.serve (.get text)
  by_cases kept : cache.limits.Storable text ∧ (cache.serve (.get text)).Outlasts between
  · have same : later = earlier := get_of_outlasts served (gets.find?_eq kept.1) kept.2
    exact ⟨iff_of_true (congrArg Shared.id same) kept, fun _ => same⟩
  -- What is parsed anew has a number that no template had when the first request was answered.
  · have before : earlier.id < (cache.serve (.get text)).next := gets.id_lt_next orderly
    rw [← cache.limits_serve (.get text)] at kept
    have anew : (cache.serve (.get text)).next ≤ later.id := next_le_id served kept
    rw [cache.limits_serve (.get text)] at kept
    have apart : later.id ≠ earlier.id := Nat.ne_of_gt (Nat.lt_of_lt_of_le before anew)
    exact ⟨iff_of_false apart kept, fun same => absurd same apart⟩

theorem contains_serve (orderly : cache.IsOrderly first) (request : Request) (text : String) :
    (cache.serve request).contains text ↔ cache.contains text ∧ ¬ cache.Empties request ∨
      request = .get text ∧ cache.limits.Storable text := by
  cases request with
  | get other =>
      rw [contains_iff_mem, contains_iff_mem, Request.get.injEq, serve,
        (cache.gets_get other).mem_texts_iff orderly]
      apply or_congr_right
      constructor <;>
        · rintro ⟨rfl, storable⟩
          exact ⟨rfl, storable⟩
  | contains => simp [serve, Empties]
  | clear => simp [serve, Empties, contains_iff_mem, clear, texts]

theorem contains_serveAll_iff (limits : Limits) (requests : List Request) (text : String) :
    ((empty limits).serveAll requests).contains text ↔
      limits.Storable text ∧ ∃ before after, requests = before ++ .get text :: after ∧
        ((empty limits).serveAll (before ++ [.get text])).Outlasts after := by
  -- From the end: whether the text is stored is settled by the last request and by what was before.
  induction requests using List.reverseRecOn with
  | nil => simp [serveAll, empty, contains_iff_mem, texts]
  | append_singleton earlier request ih =>
      have orderly := (isOrderly_empty limits).serveAll earlier
      have last : ((empty limits).serveAll (earlier ++ [request])) =
          ((empty limits).serveAll earlier).serve request := serveAll_append _ _ _
      rw [last, contains_serve orderly, ih, limits_serveAll]
      constructor
      · rintro (⟨⟨storable, before, after, rfl, outlasts⟩, stays⟩ | ⟨rfl, storable⟩)
        · refine ⟨storable, before, after ++ [request], by simp, ?_⟩
          rw [outlasts_append, ← serveAll_append, List.append_assoc]
          exact ⟨outlasts, stays, trivial⟩
        · exact ⟨storable, earlier, [], rfl, trivial⟩
      · rintro ⟨storable, before, after, split, outlasts⟩
        obtain rfl | ⟨others, final, rfl⟩ := List.eq_nil_or_concat' after
        · obtain ⟨-, same⟩ := List.append_inj' split rfl
          exact .inr ⟨(List.cons.inj same).1, storable⟩
        · rw [← List.cons_append, ← List.append_assoc] at split
          obtain ⟨rfl, same⟩ := List.append_inj' split rfl
          obtain rfl := (List.cons.inj same).1
          rw [outlasts_append, ← serveAll_append, List.append_assoc] at outlasts
          exact .inl ⟨⟨storable, before, others, rfl, outlasts.1⟩, outlasts.2.1⟩

end

/-- Of the requests that one caller makes, one after the other, two for the same text are answered
with the same template exactly if the text may be stored and none between them empties the cache.
The texts stored are those that may be and were asked for since it was empty, and there are as many
entries as such texts. A text that is stored or may not be stored changes no entry. -/
theorem shared_until_emptied (limits : Limits) :
    let reached (requests : List Request) := (empty limits).serveAll requests
    (∀ before text between,
        let first := ((reached before).get text).1
        let later := ((reached (before ++ .get text :: between)).get text).1
        (later.id = first.id ↔
          limits.Storable text ∧ (reached (before ++ [.get text])).Outlasts between) ∧
        (later.id = first.id → later = first)) ∧
      (∀ requests text, (reached requests).contains text ↔
        limits.Storable text ∧ ∃ before after, requests = before ++ .get text :: after ∧
          (reached (before ++ [.get text])).Outlasts after) ∧
      (∀ requests, ∃ texts : List String, texts.Nodup ∧ texts.length = (reached requests).size ∧
        ∀ text, text ∈ texts ↔ (reached requests).contains text) ∧
      ∀ requests text, (reached requests).contains text ∨ ¬ limits.Storable text →
        (reached (requests ++ [.get text])).entries = (reached requests).entries := by
  intro reached
  have orderly (requests : List Request) : (reached requests).IsOrderly 0 :=
    (isOrderly_empty limits).serveAll requests
  have limited (requests : List Request) : (reached requests).limits = limits :=
    limits_serveAll (empty limits) requests
  have next (requests : List Request) (text : String) :
      reached (requests ++ [.get text]) = ((reached requests).get text).2.1 :=
    serveAll_append _ _ _
  refine ⟨?_, contains_serveAll_iff limits, ?_, ?_⟩
  · intro before text between
    have split : reached (before ++ .get text :: between) =
        (reached (before ++ [.get text])).serveAll between := by
      rw [← serveAll_append, List.append_assoc]
      rfl
    have again := get_again (orderly before) text between
    rw [limited] at again
    rw [split, next]
    exact again
  · intro requests
    exact ⟨(reached requests).texts, (orderly requests).distinct, List.length_map _,
      fun text => ((reached requests).contains_iff_mem text).symm⟩
  · intro requests text idle
    rw [next]
    apply ((reached requests).gets_get text).entries_eq
    rwa [limited]

theorem shared_until_emptied_two_places :
    let reached (requests : List Request) := (empty ⟨2, 3⟩).serveAll requests
    let answer (requests : List Request) := ((reached requests).get "a").1
    let asked : List Request := [.get "b", .get "a"]
    let idle : List Request := [.contains "c", .get "too long", .get "b"]
    ((answer (asked ++ idle)).id = (answer [.get "b"]).id ∧
        answer (asked ++ idle) = answer [.get "b"]) ∧
      (reached asked).Outlasts idle ∧
      ((answer (asked ++ [.get "c"])).id ≠ (answer [.get "b"]).id ∧
        ¬ (reached asked).Outlasts [.get "c"] ∧
        ¬ (reached (asked ++ [.get "c"])).contains "a") ∧
      ((reached asked).contains "b" ∧
        (reached (asked ++ [.get "b"])).entries = (reached asked).entries) ∧
      ¬ Limits.Storable ⟨2, 3⟩ "too long" ∧
        (reached (asked ++ [.get "too long"])).entries = (reached asked).entries := by
  intro reached answer asked idle
  obtain ⟨again, -, -, entries⟩ := shared_until_emptied ⟨2, 3⟩
  have same : (answer (asked ++ idle)).id = (answer [.get "b"]).id := by decide +kernel
  have apart : (answer (asked ++ [.get "c"])).id ≠ (answer [.get "b"]).id := by decide +kernel
  have storable : Limits.Storable ⟨2, 3⟩ "a" := ⟨by decide, by decide⟩
  have long : ¬ Limits.Storable ⟨2, 3⟩ "too long" := fun storable => absurd storable.2 (by decide)
  have emptied : ¬ (reached asked).Outlasts [.get "c"] := fun outlasts =>
    apart ((again [.get "b"] "a" [.get "c"]).1.mpr ⟨storable, outlasts⟩)
  have stored : (reached asked).contains "b" := by decide +kernel
  have dropped : ¬ (reached (asked ++ [.get "c"])).contains "a" := by decide +kernel
  exact ⟨⟨same, (again [.get "b"] "a" idle).2 same⟩, ((again [.get "b"] "a" idle).1.mp same).2,
    ⟨apart, emptied, dropped⟩, ⟨stored, entries asked "b" (.inl stored)⟩, long,
    entries asked "too long" (.inr long)⟩

end Cache

end Stencil
