import CourseCatalog.Report.Failure
/-!
# Reports

A report is all that comes of some work: the lines printed, what was noticed, and how
the work ended. Work that follows a failure is not done. Listing the paths of a cycle
is work without an end.
-/

namespace CourseCatalog

/-- How work ended. -/
inductive Ending (α : Type)
  | done (result : α)
  | failed (failure : Failure)
  | endless

/-- What comes of work. -/
@[ext]
structure Report (α : Type) where
  lines : List Line
  log : List Notice
  ending : Ending α

namespace Report

/-- Work that only fails. -/
def fail {α : Type} (f : Failure) : Report α :=
  ⟨[], [], .failed f⟩

/-- Prints one line. -/
def line (l : Line) : Report Unit :=
  ⟨[l], [], .done ()⟩

/-- Prints lines. -/
def print (ls : List Line) : Report Unit :=
  ⟨ls, [], .done ()⟩

/-- Work that prints nothing and cannot fail. -/
def ofLogged {α : Type} (x : Logged α) : Report α :=
  ⟨[], x.log, .done x.value⟩

/-- Work that prints nothing and may fail. -/
def ofExcept {ε α : Type} (cause : ε → Failure) : Except ε α → Report α
  | .ok a => ⟨[], [], .done a⟩
  | .error e => fail (cause e)

/-- Work and what follows it. -/
def andThen {α β : Type} (x : Report α) (f : α → Report β) : Report β :=
  match x.ending with
  | .done a => ⟨x.lines ++ (f a).lines, x.log ++ (f a).log, (f a).ending⟩
  | .failed e => ⟨x.lines, x.log, .failed e⟩
  | .endless => ⟨x.lines, x.log, .endless⟩

instance : Monad Report where
  pure a := ⟨[], [], .done a⟩
  bind := andThen

@[simp] theorem bind_eq_andThen {α β : Type} (x : Report α) (f : α → Report β) :
    (x >>= f) = x.andThen f := rfl

@[simp] theorem andThen_pure {α β : Type} (a : α) (f : α → Report β) : (pure a : Report α).andThen f = f a := by
  simp [andThen, pure]

@[simp] theorem andThen_fail {α β : Type} (e : Failure) (f : α → Report β) :
    (fail e : Report α).andThen f = fail e := rfl

/-- The failure that the work ended with. -/
def failure? {α : Type} (x : Report α) : Option Failure :=
  match x.ending with
  | .failed f => some f
  | _ => none

/-- The exit code of the work. -/
def exitCode {α : Type} (x : Report α) : Nat :=
  (x.failure?.map (·.exitCode)).getD 0

/-- The text on standard output. -/
def output {α : Type} (colored : Bool) (x : Report α) : String :=
  Line.page colored x.lines

end Report

/-- A notice is shown from the level on that the verbosity asks for. -/
def Notice.shown (verbosity : Nat) (n : Notice) : Bool :=
  let least : Level := match verbosity with
    | 0 => .warn
    | 1 => .info
    | _ => .debug
  least.rank ≤ n.level.rank

end CourseCatalog
