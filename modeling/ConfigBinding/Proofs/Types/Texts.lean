import ConfigBinding.Properties
import ConfigBinding.Proofs.Types.Fit

/-!
# Values read from texts

What the text under a key stands for has the shape that the accessor asks for, whatever the text.

* `ScalarType.parse_conforms`: one scalar;
* `Accessor.parse_conforms`: a whole text;
* `PropertySource.lookup_conforms`: a text or the default.
-/

namespace ConfigBinding

theorem ScalarType.parse?_conforms {type : ScalarType} {raw : String} {value : Value}
    (parsed : type.parse? raw = some value) : value.conforms type.toFieldType := by
  cases type with
  | boolean | string =>
    cases parsed
    rfl
  | int | double =>
    simp only [ScalarType.parse?, Option.map_eq_some_iff] at parsed
    obtain ⟨number, -, rfl⟩ := parsed
    rfl

/-- The scalar that the text under a key, or an item of this text, stands for. -/
def ScalarType.parse (type : ScalarType) (key text : String) : Except ParseError Value :=
  match type.parse? text with
  | some value => .ok value
  | none => .error ⟨key, text, type⟩

theorem ScalarType.parse_conforms {type : ScalarType} {key text : String} {value : Value}
    (parsed : type.parse key text = .ok value) : value.conforms type.toFieldType := by
  unfold ScalarType.parse at parsed
  split at parsed
  next found =>
    cases parsed
    exact ScalarType.parse?_conforms found
  next => cases parsed

theorem Accessor.parse_eq (accessor : Accessor) (key raw : String) :
    accessor.parse key raw =
      if accessor.isList then
        ((listItems raw).mapM (accessor.scalar.parse key)).map .array
      else accessor.scalar.parse key raw := rfl

theorem Accessor.parse_conforms {accessor : Accessor} {key raw : String} {value : Value}
    (parsed : accessor.parse key raw = .ok value) : value.conforms accessor.type := by
  rw [Accessor.parse_eq] at parsed
  split at parsed
  next isList =>
    cases itemsParsed : (listItems raw).mapM (accessor.scalar.parse key) with
    | error e =>
      rw [itemsParsed] at parsed
      cases parsed
    | ok items =>
      rw [itemsParsed] at parsed
      cases parsed
      rw [Accessor.type, if_pos isList]
      refine List.all_eq_true.mpr fun item member => ?_
      obtain ⟨text, -, itemParsed⟩ := exists_of_mem_right (mapM_eq_ok.mp itemsParsed) member
      exact ScalarType.parse_conforms itemParsed
  next isScalar =>
    rw [Accessor.type, if_neg isScalar]
    exact ScalarType.parse_conforms parsed

/-- With a default of the right shape, whatever is looked up has this shape. -/
theorem PropertySource.lookup_conforms {source : PropertySource} {key : String}
    {accessor : Accessor} {default value : Value} (fits : default.conforms accessor.type)
    (found : source.lookup key accessor default = .ok value) : value.conforms accessor.type := by
  unfold PropertySource.lookup at found
  split at found
  next =>
    cases found
    exact fits
  next => exact Accessor.parse_conforms found

end ConfigBinding
