/-!
# Powers of naturals

A library of algebra has a power of naturals of its own.  The instance here comes before it, so that
a power is the one of the core library in every module, whatever else the module imports.
-/

namespace AudioLibrary.Number

@[default_instance 20000]
instance (priority := 2000) corePow : Pow Nat Nat := instPowNat

end AudioLibrary.Number
