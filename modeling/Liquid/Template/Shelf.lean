import Liquid.Template.Basic

/-!
# Shelves

Templates under names, with the assigns that last. A clone shares the assigns of the template it
was made from and nothing else: each has its own source and decides for itself whether its renders
are isolated.
-/

namespace Liquid

/-- A template and the place of its assigns. -/
structure Shelved where
  template : Template
  place : Nat

structure Shelf where
  templates : Bindings Shelved
  stores : Array (Bindings Value)

namespace Shelf

def empty : Shelf := ⟨Bindings.empty, #[]⟩

def store (shelf : Shelf) (place : Nat) : Bindings Value := shelf.stores.getD place Bindings.empty

def setStore (shelf : Shelf) (place : Nat) (store : Bindings Value) : Shelf :=
  { shelf with stores := shelf.stores.setIfInBounds place store }

/-- Puts a new template under a name, with assigns of its own. -/
def add (shelf : Shelf) (id : String) (t : Template) : Shelf :=
  { templates := shelf.templates.insert id ⟨t, shelf.stores.size⟩
    stores := shelf.stores.push Bindings.empty }

/-- Puts a changed template in the place of an old one. -/
def change (shelf : Shelf) (id : String) (old : Shelved) (t : Template) : Shelf :=
  { shelf with templates := shelf.templates.insert id { old with template := t } }

def clone (shelf : Shelf) (s : Shelved) (id : String) : Shelf :=
  { shelf with templates := shelf.templates.insert id s }

/-- Sets an assign that lasts, whether or not the renders of the template are isolated. -/
def assign (shelf : Shelf) (s : Shelved) (name : String) (v : Value) : Shelf :=
  shelf.setStore s.place ((shelf.store s.place).insert name v)

def render (shelf : Shelf) (s : Shelved) (data : Value) (o : Options) (clock : Clock)
    (heap : Heap) :
    Except Error Rendered × Shelf × Heap :=
  let (result, store, heap) := s.template.render data o clock (shelf.store s.place) heap
  (result, shelf.setStore s.place store, heap)

end Shelf

end Liquid
