/-!
# Powers

Powers of naturals and of integers are those of the core library, whatever else is imported.
-/
namespace PortableSql

scoped instance (priority := high) natPow : Pow Nat Nat := instPowNat

scoped instance (priority := high) intPow : Pow Int Nat := instPowNat

end PortableSql
