import FPSpy.Lib.Run

/-!
# What a machine answers

A machine with answers is a function `step : σ → ι → σ × ο`. Two machines answer alike
on a run if related states answer alike and stay related; the relation only has to be
kept by the steps the run takes.
-/
namespace FPSpy.Run

variable {σ τ ι ο : Type*}

end FPSpy.Run
