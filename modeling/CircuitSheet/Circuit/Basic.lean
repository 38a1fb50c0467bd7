import CircuitSheet.Circuit.Kind
import CircuitSheet.Text.Capitals

/-!
# Circuits

A circuit consists of components, power symbols and connections, each in the order in which
they were described. Entities are known by their references; power symbols alone may go
without one.
-/

namespace CircuitSheet

/-- A part of a circuit. -/
structure Component (K : Type) where
  reference : String
  kind : Kind
  value : String
  position : Point K
  library : String
  symbol : String
  deriving DecidableEq, Repr

/-- A component drawn with the symbol of its kind. -/
def Component.ofKind {K : Type} (reference : String) (kind : Kind) (value : String)
    (position : Point K) : Component K where
  reference := reference
  kind := kind
  value := value
  position := position
  library := kind.symbol.1
  symbol := kind.symbol.2

/-- The library and the symbol of a component in one name. -/
def Component.symbolName {K : Type} (component : Component K) : String :=
  component.library ++ ":" ++ component.symbol

/-- Whether a rail has one of the usual names of a ground. -/
def isGround (rail : String) : Bool :=
  let name := Text.capitalise (Text.trim rail.toList)
  ['G', 'N', 'D'].isPrefixOf name || ['G', 'N', 'D'].isSuffixOf name ||
    name == ['V', 'S', 'S'] || name == ['V', 'E', 'E'] || name == ['0', 'V']

/-- The symbol of a supply rail. Without a reference it is given one when the sheet is drawn. -/
structure PowerSymbol (K : Type) where
  reference : String
  rail : String
  position : Point K
  deriving DecidableEq, Repr

/-- The name of the symbol that a rail is drawn with. -/
def PowerSymbol.symbolName {K : Type} (power : PowerSymbol K) : String :=
  "power:" ++ power.rail

/-- The size of the body of a power symbol. -/
def PowerSymbol.bodySize {K : Type} [Scalar K] : Size K := ⟨5.0, 5.0⟩

/-- One end of a connection: a pin of an entity, or the entity as a whole. -/
structure Terminal where
  entity : String
  pin : Option String
  deriving DecidableEq, Repr

/-- A terminal as it is written in descriptions. -/
def Terminal.describe (terminal : Terminal) : String :=
  match terminal.pin with
  | some pin => terminal.entity ++ "." ++ pin
  | none => terminal.entity

/-- A wish to join two terminals. -/
structure Connection where
  source : Terminal
  target : Terminal
  deriving DecidableEq, Repr

/-- A connection as it is written in descriptions. -/
def Connection.describe (connection : Connection) : String :=
  connection.source.describe ++ " -> " ++ connection.target.describe

/-- Something that is placed on the page. -/
inductive Entity (K : Type)
  | component (component : Component K)
  | power (power : PowerSymbol K)
  deriving DecidableEq, Repr

namespace Entity

variable {K : Type}

/-- The reference of an entity. -/
def reference : Entity K → String
  | component part => part.reference
  | power symbol => symbol.reference

/-- The position of an entity. -/
def position : Entity K → Point K
  | component part => part.position
  | power symbol => symbol.position

/-- The size of the body of an entity. -/
def bodySize [Scalar K] : Entity K → Size K
  | component part => part.kind.bodySize
  | power _ => PowerSymbol.bodySize

end Entity

/-- Components, power symbols and connections in the order of their description. -/
structure Circuit (K : Type) where
  name : String
  components : List (Component K)
  powers : List (PowerSymbol K)
  connections : List Connection
  deriving DecidableEq, Repr

namespace Circuit

variable {K : Type}

/-- A circuit with a name and nothing in it. -/
def named (name : String) : Circuit K := ⟨name, [], [], []⟩

/-- All entities, components first. -/
def entities (circuit : Circuit K) : List (Entity K) :=
  circuit.components.map Entity.component ++ circuit.powers.map Entity.power

/-- All references, those of components first. -/
def references (circuit : Circuit K) : List String :=
  circuit.entities.map Entity.reference

/-- The first entity with a reference. -/
def entity? (circuit : Circuit K) (reference : String) : Option (Entity K) :=
  circuit.entities.find? (·.reference == reference)

/-- A reference is taken when an entity bears it; the empty one never is. -/
def isTaken (circuit : Circuit K) (reference : String) : Bool :=
  reference != "" && (circuit.entity? reference).isSome

/-- The circuit with one more component, unless its reference is taken. -/
def addComponent? (circuit : Circuit K) (component : Component K) : Option (Circuit K) :=
  if circuit.isTaken component.reference then none
  else some { circuit with components := circuit.components ++ [component] }

/-- The circuit with one more power symbol, unless its reference is taken. -/
def addPower? (circuit : Circuit K) (power : PowerSymbol K) : Option (Circuit K) :=
  if circuit.isTaken power.reference then none
  else some { circuit with powers := circuit.powers ++ [power] }

/-- Add a component; one whose reference is taken is left out. -/
def addComponent (circuit : Circuit K) (component : Component K) : Circuit K :=
  (circuit.addComponent? component).getD circuit

/-- Add a power symbol; one whose reference is taken is left out. -/
def addPower (circuit : Circuit K) (power : PowerSymbol K) : Circuit K :=
  (circuit.addPower? power).getD circuit

/-- Add a connection at the end. -/
def addConnection (circuit : Circuit K) (connection : Connection) : Circuit K :=
  { circuit with connections := circuit.connections ++ [connection] }

/-- The components of one kind, in order. -/
def ofKind (circuit : Circuit K) (kind : Kind) : List (Component K) :=
  circuit.components.filter fun component => component.kind == kind

@[simp] theorem entities_named (name : String) : (named name : Circuit K).entities = [] := rfl

/-- An entity with the reference exists exactly when the reference is among those in use. -/
theorem entity?_isSome {circuit : Circuit K} {reference : String} :
    (circuit.entity? reference).isSome = circuit.references.contains reference := by
  unfold entity? references
  generalize circuit.entities = entities
  induction entities with
  | nil => rfl
  | cons head tail inductionHypothesis =>
      by_cases same : head.reference = reference
      · subst same
        simp
      · have forward : (head.reference == reference) = false := beq_false_of_ne same
        have backward : (reference == head.reference) = false := beq_false_of_ne (Ne.symm same)
        rw [List.find?_cons, List.map_cons, List.contains_cons, forward, backward,
          inductionHypothesis, Bool.false_or]

end Circuit
end CircuitSheet
