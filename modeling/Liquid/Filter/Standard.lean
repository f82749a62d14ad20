import Liquid.Filter.Arithmetic
import Liquid.Filter.Collection
import Liquid.Filter.Text

/-!
# The standard filters
-/

namespace Liquid.Filter

def standardFilters : List (String × Filter) :=
  [("plus", plus), ("minus", minus), ("times", times), ("divided_by", dividedBy),
   ("modulo", modulo), ("size", size), ("upcase", upcase), ("downcase", downcase),
   ("capitalize", capitalize), ("append", append), ("prepend", prepend), ("strip", strip),
   ("lstrip", lstrip), ("rstrip", rstrip), ("split", split), ("join", join), ("first", first),
   ("last", last), ("reverse", reverse), ("replace", replace), ("remove", remove),
   ("truncate", truncate), ("default", default), ("escape", escape)]

def standard : Bindings Filter := Bindings.ofPairs standardFilters

end Liquid.Filter
