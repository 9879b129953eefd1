/-!
# Powers

The powers of natural numbers are those of the core library, whatever other instances a module has
in view, so that `2 ^ n` is the same term in all of them.
-/

attribute [instance (1100)] instPowNat
attribute [default_instance 20000] instPowNat
