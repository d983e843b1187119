import Stencil.Cache.Basic

/-!
Calls on one cache that run at the same time. Their atomic steps interleave in any order, and the
cache may be cleared between any two of them.
-/

namespace Stencil

/-- A cache and the calls made on it so far, in the order in which they began. -/
structure World where
  cache : Cache
  calls : List Call

inductive Move
  /-- A call for a text begins. -/
  | ask (text : String)
  /-- The call of this number takes one step. -/
  | advance (call : Nat)
  | clear

namespace World

def move (world : World) : Move → World
  | .ask text => ⟨world.cache, world.calls ++ [.asked text]⟩
  | .clear => ⟨world.cache.clear, world.calls⟩
  | .advance i =>
      match world.calls[i]? with
      | none => world
      | some call =>
          let (call, cache, _) := call.step world.cache
          ⟨cache, world.calls.set i call⟩

def run (world : World) (moves : List Move) : World := moves.foldl move world

theorem run_cons (world : World) (next : Move) (moves : List Move) :
    world.run (next :: moves) = (world.move next).run moves := rfl

theorem run_append (world : World) (a b : List Move) :
    world.run (a ++ b) = (world.run a).run b := by
  simp [run]

def inFlight (world : World) : Nat := world.calls.countP fun call => call.stepsLeft != 0

end World

/-- `n` calls for a text that begin together. `order` tells which of them takes the next step. -/
def Cache.together (cache : Cache) (text : String) (n : Nat) (order : List Nat) : World :=
  (World.mk cache (List.replicate n (.asked text))).run (order.map Move.advance)

/-- `n` calls for a text, each of which looks it up before any of them goes on, so that all of them
find it absent if one does. Then they go on to their answers one after the other. -/
def Cache.race (cache : Cache) (text : String) (n : Nat) : World :=
  cache.together text n (List.range n ++ (List.range n).flatMap (List.replicate 3))

def World.agrees (world : World) (text : String) : Bool :=
  match world.cache.find? text with
  | none => false
  | some stored => world.calls.all fun
      | .answered shared => shared.id == stored.id
      | _ => false

end Stencil
