import CircuitSheet.Description.Dialect

/-!
# What described circuits keep

Both forms of a description make a circuit in the same way: it starts with a name and nothing in
it, is renamed, and takes one entry after the other. What these steps keep holds of every circuit
that a text describes.
-/

namespace CircuitSheet

variable {K : Type}

/-! ## Entities that join -/

namespace Circuit

theorem mem_components_addComponent {circuit : Circuit K} {added component : Component K}
    (member : component ∈ (circuit.addComponent added).components) :
    component ∈ circuit.components ∨ component = added := by
  unfold addComponent addComponent? at member
  split at member
  · exact .inl member
  · simpa using member

@[simp] theorem components_addPower (circuit : Circuit K) (power : PowerSymbol K) :
    (circuit.addPower power).components = circuit.components := by
  unfold addPower addPower?
  split <;> rfl

end Circuit

namespace Description

variable [ScalarText K]

/-- What holds of circuits without content and is kept when a circuit is renamed and when it takes
an entry. -/
structure Kept (holds : Circuit K → Prop) : Prop where
  named : ∀ name, holds (Circuit.named name)
  renamed : ∀ circuit name, holds circuit → holds { circuit with name := name }
  entered : ∀ circuit part entry, holds circuit → holds (addEntry circuit part entry)

namespace Kept

variable {holds : Circuit K → Prop}

theorem next (kept : Kept holds) {reading : Reading K} (line : List Char)
    (before : holds reading.circuit) : holds (reading.next line).circuit := by
  unfold Reading.next
  split
  case isTrue idle => exact before
  case isFalse content =>
    cases Line.of (Text.trim line) with
    | circuitHeader rest => exact kept.renamed _ _ before
    | sectionHeader opened => exact before
    | entry text =>
        cases opened : reading.opened with
        | none => simpa only [Reading.line, opened] using before
        | some part => simpa only [Reading.line, opened] using kept.entered _ part text before

theorem addItem (kept : Kept holds) {circuit : Circuit K} (opened : Section) (item : Yaml.Value)
    (before : holds circuit) : holds (Description.addItem opened circuit item) := by
  unfold Description.addItem
  split
  · exact kept.entered _ _ _ before
  · exact before

theorem addSection (kept : Kept holds) {circuit : Circuit K} (entry : Yaml.Value × Yaml.Value)
    (before : holds circuit) : holds (Description.addSection circuit entry) := by
  unfold Description.addSection
  split
  case h_1 opened items _ _ =>
    exact List.foldlRecOn items _ before fun _ held item _ => kept.addItem opened item held
  case h_2 => exact before

theorem ofYaml (kept : Kept holds) {value : Yaml.Value} {circuit : Circuit K}
    (described : Description.ofYaml value = .ok circuit) : holds circuit := by
  unfold Description.ofYaml at described
  split at described
  case h_3 header body others =>
    have empty := kept.named (circuitName (header.scalarText?.getD "").toList)
    cases body with
    | null => exact Except.ok.inj described ▸ empty
    | mapping sections =>
        refine Except.ok.inj described ▸ ?_
        exact List.foldlRecOn sections _ empty fun _ held entry _ => kept.addSection entry held
    | _ => cases described
  all_goals cases described

/-- What is kept holds of every circuit that a text describes. -/
theorem parse (kept : Kept holds) {dialect : Dialect} {text : List Char} {circuit : Circuit K}
    (described : Description.parse dialect text = .ok circuit) : holds circuit := by
  unfold Description.parse at described
  split at described
  case h_1 =>
    unfold parseBlock at described
    split at described
    · cases described
    · split at described
      · exact kept.ofYaml described
      · cases described
  case h_2 =>
    unfold parseLines at described
    split at described
    · cases described
    · refine Except.ok.inj described ▸ ?_
      exact List.foldlRecOn (motive := fun reading : Reading K => holds reading.circuit) _ _
        (kept.named untitled) fun _ held line _ => kept.next line held

end Kept

end Description
end CircuitSheet
