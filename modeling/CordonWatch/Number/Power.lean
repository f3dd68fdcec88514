/-!
# Powers

Powers of numbers are the ones that are computed with, in every module: an
algebra that is imported beside them brings its own powers, which are equal
but read differently.
-/

attribute [instance (2000), default_instance (20000)] instPowNat
