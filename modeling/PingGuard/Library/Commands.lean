import PingGuard.Library.Exceptions

/-!
# Programs that issue commands

A program either has a result or issues a command to a server and goes on with the reply. Every
command is carried out in one step, so a program can be run in one go (`run`), or a command at a
time, with whatever else happens to the server in between (`step`). The type of a reply depends on
the command.

A command that fails is a reply too: `Attempt` is a program whose commands may raise instead of
replying, for the `try` statements of `Library.Exceptions`.
-/

set_option autoImplicit false
set_option relaxedAutoImplicit false

namespace PingGuard.Library.Commands

/-- A program that issues commands. -/
inductive Program (κ : Type) (ρ : κ → Type) (α : Type) : Type
  | finished (result : α)
  | waiting (command : κ) (next : ρ command → Program κ ρ α)

namespace Program

variable {κ : Type} {ρ : κ → Type} {σ α β : Type}

/-- One program after another. -/
def bind (program : Program κ ρ α) (next : α → Program κ ρ β) : Program κ ρ β :=
  match program with
  | finished result => next result
  | waiting command rest => waiting command fun reply ↦ (rest reply).bind next

instance : Monad (Program κ ρ) where
  pure := finished
  bind := bind

/-- The command that a program is about to issue. -/
def pending : Program κ ρ α → Option κ
  | finished _ => none
  | waiting command _ => some command

/-- A program that is run to its end. `serve` is the server: what it replies to a command, and what
becomes of its state. -/
def run (serve : (command : κ) → σ → ρ command × σ) : Program κ ρ α → σ → α × σ
  | finished result, state => (result, state)
  | waiting command next, state =>
    run serve (next (serve command state).1) (serve command state).2

/-- The next command of a program, if it issues one. -/
def step (serve : (command : κ) → σ → ρ command × σ) :
    Program κ ρ α → σ → Option (Program κ ρ α × σ)
  | finished _, _ => none
  | waiting command next, state =>
    some (next (serve command state).1, (serve command state).2)

variable {serve : (command : κ) → σ → ρ command × σ}

@[simp] theorem run_waiting (command : κ) (next : ρ command → Program κ ρ α) (state : σ) :
    (waiting command next).run serve state =
      (next (serve command state).1).run serve (serve command state).2 := rfl

/-- The second of two programs goes on where the first has left the server. -/
@[simp] theorem run_bind (program : Program κ ρ α) (next : α → Program κ ρ β) (state : σ) :
    (program >>= next).run serve state =
      (next (program.run serve state).1).run serve (program.run serve state).2 := by
  induction program generalizing state with
  | finished result => rfl
  | waiting command rest ih => exact ih (serve command state).1 (serve command state).2

/-- A function of the result leaves what a program does. -/
@[simp] theorem run_map (change : α → β) (program : Program κ ρ α) (state : σ) :
    (change <$> program).run serve state =
      (change (program.run serve state).1, (program.run serve state).2) :=
  run_bind program (fun result ↦ finished (change result)) state

end Program

/-! ### Commands that may fail -/

variable {κ ε : Type} {ρ : κ → Type} {α : Type}

/-- The replies to commands that may raise. -/
abbrev Reply (ε : Type) (ρ : κ → Type) (command : κ) : Type := Except ε (ρ command)

/-- A program whose commands may raise. -/
abbrev Attempt (κ : Type) (ρ : κ → Type) (ε α : Type) : Type :=
  ExceptT ε (Program κ (Reply ε ρ)) α

/-- Issue a command. -/
def issue (command : κ) : Attempt κ ρ ε (ρ command) :=
  ExceptT.mk (.waiting command .finished)

end PingGuard.Library.Commands
