-- Runtime contexts. Each thread has a stack of entered runtimes. A runtime
-- may run where it is the innermost one, and on its home thread while
-- nothing is entered.
import NativeBridge.System.Basic

namespace NativeBridge

namespace System

variable {σ : Type}

/-- The innermost runtime entered on the thread at work. -/
def currentRuntime (s : System σ) : Option RuntimeId := s.entered.head?

/-- Whether a runtime may run here and now. -/
def mayRun (s : System σ) (r : RuntimeId) : Bool :=
  match s.currentRuntime with
  | some current => current == r
  | none => s.thread == (s.bridge r).home

/-- Enters a runtime. -/
def enter (s : System σ) (r : RuntimeId) : System σ := { s with entered := r :: s.entered }

/-- Leaves a runtime: its innermost entry goes, wherever it stands. -/
def leave (s : System σ) (r : RuntimeId) : System σ := { s with entered := s.entered.erase r }

end System

variable {σ : Type}

/-- Fails unless a runtime may run here and now. -/
def checkContext (r : RuntimeId) : Attempt σ Unit := do
  let s ← get
  unless s.mayRun r do throw (.wrongContext r s.currentRuntime)

end NativeBridge
