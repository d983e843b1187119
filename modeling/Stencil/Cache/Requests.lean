import Stencil.Cache.Basic
import Stencil.Rendering

namespace Stencil

inductive Request
  | get (text : String)
  | contains (text : String)
  | clear

namespace Cache

def serve (cache : Cache) : Request → Cache
  | .get text => (cache.get text).2.1
  | .contains _ => cache
  | .clear => cache.clear

def serveAll (cache : Cache) (requests : List Request) : Cache := requests.foldl serve cache

/-- The text rendered by the template that the cache gives for it. Without symbols of their own,
numbers are written with the invariant ones. -/
def renderText (cache : Cache) (properties : Properties) (symbols : Option Symbols)
    (text : String) : Except RenderError String × Cache × List Event :=
  let (shared, cache, events) := cache.get text
  (shared.template.renderText properties (symbols.getD .invariant), cache, events)

end Cache

end Stencil
