/-!
Powers of whole numbers.

Where more of the theory of numbers is in scope, there are further ways to raise a whole number to
a power, all with the same result. Definitions use the one of the core library throughout.
-/

attribute [instance (1100), default_instance 20000] instPowNat
