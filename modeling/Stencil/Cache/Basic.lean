import Stencil.Event

/-!
A cache of parsed templates by their texts. A call for a template goes in steps, each of them
atomic: look the text up and parse it if it is absent; test whether the cache is full; if it is,
clear it; store the parsed template, unless another call has stored one for the text before.
-/

namespace Stencil

structure Limits where
  /-- At this number of entries the cache is cleared. Zero stores nothing. -/
  maxEntries : Nat
  /-- In bytes; longer templates are not stored. -/
  maxTemplateLength : Nat
  deriving DecidableEq

def Limits.usual : Limits := ⟨1000, 1024⟩

/-- A parsed template as calls share it. Each one parsed gets a number of its own. -/
structure Shared where
  id : Nat
  template : Template

structure Cache where
  limits : Limits
  entries : List (String × Shared)
  /-- The number of the next template parsed. -/
  next : Nat

namespace Cache

def empty (limits : Limits) : Cache := ⟨limits, [], 0⟩

def size (cache : Cache) : Nat := cache.entries.length

def find? (cache : Cache) (text : String) : Option Shared := cache.entries.lookup text

def contains (cache : Cache) (text : String) : Bool := (cache.find? text).isSome

def clear (cache : Cache) : Cache := { cache with entries := [] }

def isFull (cache : Cache) : Bool := cache.limits.maxEntries ≤ cache.size

def admits (cache : Cache) (text : String) : Bool :=
  cache.limits.maxEntries != 0 && text.utf8ByteSize ≤ cache.limits.maxTemplateLength

end Cache

inductive Call
  | asked (text : String)
  | absent (fresh : Shared)
  | overfull (fresh : Shared)
  | storing (fresh : Shared)
  | answered (shared : Shared)

namespace Call

/-- One atomic step. What is stored is keyed by its own text. -/
def step : Call → Cache → Call × Cache × List Event
  | asked text, cache =>
      match cache.find? text with
      | some shared => (answered shared, cache, [.cacheHit text])
      | none =>
          let fresh : Shared := ⟨cache.next, .parse text⟩
          let noted := Event.ofParse text
          let cache := { cache with next := cache.next + 1 }
          if cache.admits text then (absent fresh, cache, noted)
          else (answered fresh, cache, noted ++ [.uncacheable text.utf8ByteSize])
  | absent fresh, cache =>
      if cache.isFull then (overfull fresh, cache, [.cacheFull cache.limits.maxEntries])
      else (storing fresh, cache, [])
  | overfull fresh, cache => (storing fresh, cache.clear, [])
  | storing fresh, cache =>
      match cache.find? fresh.template.text with
      | some shared => (answered shared, cache, [])
      | none =>
          (answered fresh,
            { cache with entries := (fresh.template.text, fresh) :: cache.entries }, [])
  | answered shared, cache => (answered shared, cache, [])

/-- The greatest number of steps that are left. -/
def stepsLeft : Call → Nat
  | asked _ => 4
  | absent _ => 3
  | overfull _ => 2
  | storing _ => 1
  | answered _ => 0

theorem stepsLeft_step (call : Call) (cache : Cache) :
    (call.step cache).1.stepsLeft ≤ call.stepsLeft - 1 := by
  cases call <;> simp only [step] <;> (repeat' split) <;> simp [stepsLeft]

def finish (cache : Cache) : Call → Shared × Cache × List Event
  | answered shared => (shared, cache, [])
  | call@(asked _) | call@(absent _) | call@(overfull _) | call@(storing _) =>
      let here := call.step cache
      let later := finish here.2.1 here.1
      (later.1, later.2.1, here.2.2 ++ later.2.2)
  termination_by call => call.stepsLeft
  decreasing_by all_goals exact Nat.lt_of_le_of_lt (stepsLeft_step _ _) (by simp_all [stepsLeft])

end Call

def Cache.get (cache : Cache) (text : String) : Shared × Cache × List Event :=
  (Call.asked text).finish cache

end Stencil
