import Blueprint.Diagram.Basic

/-!
# Palettes

A palette lists the node types an editor can place, each name once, and the pairs of roles between
which an edge from one variable node into another is the usual way to copy a variable. Types can be
registered again as long as nothing about them changes.
-/

namespace Blueprint

/-- What is known about the nodes of one type. -/
structure NodeType where
  /-- The name of the type. -/
  name : String
  /-- What analysis takes its nodes for. -/
  role : Role
  /-- Where an editor lists it. -/
  category : Category
  /-- The input ports of its nodes. -/
  inputs : List Port := []
  /-- The output ports of its nodes. -/
  outputs : List Port := []
deriving DecidableEq, Repr

/-- The node types an editor can place. -/
structure Palette where
  /-- The types, in the order of their registration. -/
  types : List NodeType
  /-- The pairs of roles whose data edges copy a variable in the usual way. -/
  bridges : List (Role × Role)
  /-- No two types have one name. -/
  nodup : (types.map (·.name)).Nodup

/-- The refusal to register a type under a name that stands for another type. -/
structure Conflict where
  /-- The name in question. -/
  name : String
deriving DecidableEq, Repr

/-- The text of the refusal. -/
def Conflict.message (c : Conflict) : String :=
  "Node type " ++ Text.quoted c.name ++ " is already registered"

namespace Palette

/-- Without types there is no name that occurs twice. -/
theorem nodup_typeNames_nil : (([] : List NodeType).map (·.name)).Nodup := List.Pairwise.nil

/-- The palette without types and bridges. -/
def empty : Palette := ⟨[], [], nodup_typeNames_nil⟩

/-- The type of a name. -/
def find? (p : Palette) (name : String) : Option NodeType := p.types.find? (·.name == name)

/-- Whether a name stands for a type. -/
def contains (p : Palette) (name : String) : Bool := (p.find? name).isSome

/-- The category of a node: that of its type, else that of its role. -/
def category (p : Palette) (n : Node) : Category :=
  match p.find? n.typeName with
  | some t => t.category
  | none => n.role.category

/-- Whether a node is one of the variable nodes. -/
def isVariable (p : Palette) (n : Node) : Bool := p.category n = .memory

/-- Whether a data edge between two nodes copies a variable in the usual way. -/
def bridged (p : Palette) (source target : Node) : Bool :=
  p.bridges.contains (source.role, target.role)

/-- A name that stands for nothing is the name of no type. -/
theorem name_notMem_of_find?_eq_none {p : Palette} {name : String} (h : p.find? name = none) :
    name ∉ p.types.map (·.name) := by
  intro hm
  obtain ⟨t, ht, rfl⟩ := List.mem_map.mp hm
  have := List.find?_eq_none.mp h t ht
  simp at this

/-- Registers a type. One that is there already changes nothing, another one under its name is a
conflict. -/
def register (p : Palette) (t : NodeType) : Except Conflict Palette :=
  match h : p.find? t.name with
  | some known => if known = t then .ok p else .error ⟨t.name⟩
  | none => .ok
    { p with
      types := p.types ++ [t]
      nodup := by
        rw [List.map_append, List.nodup_append]
        refine ⟨p.nodup, by simp, ?_⟩
        intro a ha b hb e
        simp only [List.map_cons, List.map_nil, List.mem_singleton] at hb
        exact name_notMem_of_find?_eq_none h (by rw [← hb, ← e]; exact ha) }

/-- Registers types one after the other, up to the first conflict. -/
def registerAll (p : Palette) (types : List NodeType) : Except Conflict Palette :=
  types.foldlM register p

/-- A palette with more bridges. -/
def addBridges (p : Palette) (bridges : List (Role × Role)) : Palette :=
  { p with bridges := (p.bridges ++ bridges).eraseDups }

/-- A palette with the given bridges and types. -/
def build (types : List NodeType) (bridges : List (Role × Role)) : Except Conflict Palette :=
  (empty.addBridges bridges).registerAll types

end Palette

end Blueprint
