import PortableSql.Conversion.Bind
import PortableSql.Proofs.Result

/-!
# What a conversion is refused for

A value that cannot be converted is out of range or has no form in the target type. No conversion into
a parameter fails for any other reason.
-/
namespace PortableSql

/-- The error says that a value is out of range or has no form in a type. -/
inductive Error.IsConversion : Error → Prop
  | range (fault : RangeFault) : IsConversion (.rangeExceeded fault)
  | form (source target : String) : IsConversion (.typeConversion source target)

/-- If the operation fails, then because of a conversion. -/
structure Converts {α : Type} (r : Result α) : Prop where
  isConversion : ∀ e, r = .error e → e.IsConversion

namespace Converts

variable {α β : Type} {r : Result α}

theorem ok (a : α) : Converts (.ok a) := by
  constructor
  intro e h
  cases h

theorem error {e : Error} (h : e.IsConversion) : Converts (.error e : Result α) := by
  constructor
  intro e' h'
  cases h'
  exact h

theorem map (h : Converts r) (f : α → β) : Converts (r.map f) := by
  constructor
  intro e he
  exact h.isConversion e (Result.map_eq_error_iff.1 he)

theorem bind (h : Converts r) {f : α → Result β} (hf : ∀ a, Converts (f a)) :
    Converts (r >>= f) := by
  constructor
  intro e he
  rcases Result.bind_eq_error_iff.1 he with he | ⟨a, -, he⟩
  · exact h.isConversion e he
  · exact (hf a).isConversion e he

theorem ite {c : Prop} [Decidable c] {s : Result α} (hr : Converts r) (hs : Converts s) :
    Converts (if c then r else s) := by
  split
  · exact hr
  · exact hs

end Converts

namespace Conversion

theorem converts_noForm {α : Type} (source : String) (target : ValueType) :
    Converts (.error (noForm source target) : Result α) :=
  .error (.form _ _)

theorem converts_narrowInt (target : IntType) (n : Int) (shown source : String) :
    Converts (narrowInt target n shown source) :=
  .ite (.ok n) (.error (.range _))

theorem converts_narrowFloat (target : FloatType) (x : Double) (shown source : String) :
    Converts (narrowFloat target x shown source) :=
  .ite (.error (.range _)) (.ok _)

theorem converts_floatToInt (source : FloatType) (target : IntType) (x : source.Carrier) :
    Converts (floatToInt source target x) := by
  rw [floatToInt]
  split
  · exact converts_narrowInt ..
  · exact .error (.range _)

theorem converts_floatToFloat (source target : FloatType) (x : source.Carrier) :
    Converts (floatToFloat source target x) :=
  converts_narrowFloat ..

theorem converts_textToInt (target : IntType) (text : String) :
    Converts (textToInt target text) := by
  rw [textToInt]
  split
  · exact converts_narrowInt ..
  · exact .error (.form _ _)

theorem converts_textToFloat (target : FloatType) (text : String) :
    Converts (textToFloat target text) := by
  rw [textToFloat]
  split
  · exact converts_narrowFloat ..
  · exact .error (.form _ _)

theorem converts_landInt (source : IntType) (target : ValueType) (n : Int) :
    Converts (landInt source target n) := by
  unfold landInt
  split
  · exact (converts_narrowInt ..).map _
  · exact (converts_narrowInt ..).map _
  · exact (converts_narrowInt ..).map _
  · exact .ok _
  · exact .ok _
  · exact .ok _
  · exact .ok _
  · exact converts_noForm ..

theorem converts_landFloat (source : FloatType) (target : ValueType) (x : source.Carrier) :
    Converts (landFloat source target x) := by
  unfold landFloat
  split
  · exact (converts_floatToInt ..).map _
  · exact (converts_floatToInt ..).map _
  · exact (converts_floatToInt ..).map _
  · exact (converts_floatToFloat source .float x).map Value.float
  · exact (converts_floatToFloat source .double x).map Value.double
  · exact .ok _
  · exact .ok _
  · exact converts_noForm ..

theorem converts_landText (target : ValueType) (text : String) :
    Converts (landText target text) := by
  unfold landText
  split
  · exact (converts_textToInt ..).map _
  · exact (converts_textToInt ..).map _
  · exact (converts_textToInt ..).map _
  · exact (converts_textToFloat .float text).map Value.float
  · exact (converts_textToFloat .double text).map Value.double
  · exact .ok _
  · exact .ok _
  · exact converts_noForm ..

theorem converts_textOfUnits (units : List UInt16) : Converts (textOfUnits units) := by
  unfold textOfUnits
  split
  · exact .ok _
  · exact .error (.form _ _)

/-- **A value fails to arrive in a parameter only because of a conversion.** -/
theorem converts_land (target : ValueType) (value : Value) : Converts (land target value) := by
  cases value with
  | int16 | int32 | int64 => exact converts_landInt ..
  | float | double => exact converts_landFloat ..
  | utf8 text => exact converts_landText target text
  | utf16 units =>
    exact .ite ((converts_textOfUnits units).bind (converts_landText target)) (converts_noForm ..)
  | date | time | timestamp | blob => exact converts_noForm ..

end Conversion

end PortableSql
