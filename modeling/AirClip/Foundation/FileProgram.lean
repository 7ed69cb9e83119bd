import AirClip.Foundation.Bytes
import AirClip.Foundation.Runs
import Mathlib.Logic.Function.Basic

/-!
# Programs over a directory

A program looks up, reads, writes and renames the files of one directory.  Every step may fail, a write
that fails leaves its file in any state, and the process may stop between any two steps.  A program is
safe if the directory is in order wherever the process may stop, and the result is right where it
returns.  The safety of a program is found by going through its text, and holds of all of its runs.
-/

namespace Foundation

/-- The files of a directory. -/
abbrev Directory := String → Option Bytes

/-- How a step goes. -/
structure Reply where
  /-- The metadata of a file can be read. -/
  finds : Bool
  reads : Bool
  writes : Bool
  /-- What a failed write leaves of its file. -/
  left : Option Bytes
  renames : Bool

/-- Nothing fails. -/
def Reply.good : Reply := ⟨true, true, true, none, true⟩

/-- Nothing that only looks at the files fails. -/
def Reply.Observes (reply : Reply) : Prop := reply.finds ∧ reply.reads

instance (reply : Reply) : Decidable reply.Observes :=
  inferInstanceAs (Decidable (reply.finds ∧ reply.reads))

inductive FileProgram (α : Type) where
  | done (value : α)
  /-- Whether the file is there; if its metadata cannot be read, it seems not to be. -/
  | stat (name : String) (next : Bool → FileProgram α)
  | read (name : String) (next : Option Bytes → FileProgram α)
  | write (name : String) (bytes : Bytes) (next : Bool → FileProgram α)
  | rename (source target : String) (next : Bool → FileProgram α)

namespace Directory

/-- The file takes the place of another. -/
def move (files : Directory) (source target : String) (bytes : Bytes) : Directory :=
  Function.update (Function.update files source none) target (some bytes)

@[simp]
theorem move_target (files : Directory) (source target : String) (bytes : Bytes) :
    files.move source target bytes target = some bytes := Function.update_self ..

theorem move_of_ne (files : Directory) {source target name : String} (hsource : name ≠ source)
    (htarget : name ≠ target) (bytes : Bytes) : files.move source target bytes name = files name := by
  rw [move, Function.update_of_ne htarget, Function.update_of_ne hsource]

end Directory

namespace FileProgram

variable {α β : Type}

def bind (next : α → FileProgram β) : FileProgram α → FileProgram β
  | .done value => next value
  | .stat name rest => .stat name fun found ↦ bind next (rest found)
  | .read name rest => .read name fun contents ↦ bind next (rest contents)
  | .write name bytes rest => .write name bytes fun works ↦ bind next (rest works)
  | .rename source target rest => .rename source target fun works ↦ bind next (rest works)

/-- One step of a program; where it has returned, nothing happens any more. -/
def step (reply : Reply) : FileProgram α → Directory → FileProgram α × Directory
  | .done value, files => (.done value, files)
  | .stat name next, files => (next (reply.finds && (files name).isSome), files)
  | .read name next, files => (next (if reply.reads then files name else none), files)
  | .write name bytes next, files =>
    if reply.writes then (next true, Function.update files name (some bytes))
    else (next false, Function.update files name reply.left)
  | .rename source target next, files =>
    match files source with
    | none => (next false, files)
    | some bytes =>
      if reply.renames then (next true, files.move source target bytes) else (next false, files)

/-- The process stops after as many steps as there are replies. -/
def run (state : FileProgram α × Directory) (replies : List Reply) : FileProgram α × Directory :=
  replies.foldl (fun state reply ↦ step reply state.1 state.2) state

def result? : FileProgram α → Option α
  | .done value => some value
  | _ => none

/-- The program runs to its end, and each of its steps goes in the same way. -/
def exec (reply : Reply) : FileProgram α → Directory → α × Directory
  | .done value, files => (value, files)
  | .stat name next, files => exec reply (next (reply.finds && (files name).isSome)) files
  | .read name next, files => exec reply (next (if reply.reads then files name else none)) files
  | .write name bytes next, files =>
    if reply.writes then exec reply (next true) (Function.update files name (some bytes))
    else exec reply (next false) (Function.update files name reply.left)
  | .rename source target next, files =>
    match files source with
    | none => exec reply (next false) files
    | some bytes =>
      if reply.renames then exec reply (next true) (files.move source target bytes)
      else exec reply (next false) files

/-! ## Running to the end -/

theorem exec_bind (reply : Reply) (next : α → FileProgram β) (program : FileProgram α)
    (files : Directory) : exec reply (program.bind next) files =
      exec reply (next (exec reply program files).1) (exec reply program files).2 := by
  induction program generalizing files with
  | done value => rfl
  | stat name rest ih => exact ih _ _
  | read name rest ih => exact ih _ _
  | write name bytes rest ih =>
    rw [bind, exec, exec]
    split
    · exact ih _ _
    · exact ih _ _
  | rename source target rest ih =>
    rw [bind, exec, exec]
    split
    · exact ih _ _
    · split
      · exact ih _ _
      · exact ih _ _

/-- A step does not change where the program ends. -/
theorem exec_step (reply : Reply) (program : FileProgram α) (files : Directory) :
    exec reply (step reply program files).1 (step reply program files).2 =
      exec reply program files := by
  cases program with
  | done | stat | read => rfl
  | write name bytes next =>
    rw [step, exec]
    split <;> rfl
  | rename source target next =>
    rw [step, exec]
    split
    · rfl
    · split <;> rfl

/-- A program that is given time runs to its end. -/
theorem exists_run_eq_exec (reply : Reply) (program : FileProgram α) (files : Directory) :
    ∃ steps, run (program, files) (List.replicate steps reply) =
      (.done (exec reply program files).1, (exec reply program files).2) := by
  have hstep {state : FileProgram α × Directory}
      (h : ∃ steps, run (step reply state.1 state.2) (List.replicate steps reply) =
        (.done (exec reply (step reply state.1 state.2).1 (step reply state.1 state.2).2).1,
          (exec reply (step reply state.1 state.2).1 (step reply state.1 state.2).2).2)) :
      ∃ steps, run state (List.replicate steps reply) =
        (.done (exec reply state.1 state.2).1, (exec reply state.1 state.2).2) := by
    obtain ⟨steps, hrun⟩ := h
    exact ⟨steps + 1, by rwa [exec_step] at hrun⟩
  induction program generalizing files with
  | done value => exact ⟨0, rfl⟩
  | stat name next ih => exact hstep (ih _ _)
  | read name next ih => exact hstep (ih _ _)
  | write name bytes next ih =>
    apply hstep
    rw [step]
    split
    · exact ih _ _
    · exact ih _ _
  | rename source target next ih =>
    apply hstep
    rw [step]
    split
    · exact ih _ _
    · split
      · exact ih _ _
      · exact ih _ _

/-! ## Safety -/

/-- Wherever the process may stop `kept` holds, and where the program returns `post` does. -/
def Safe (kept : Directory → Prop) (post : α → Directory → Prop) :
    FileProgram α → Directory → Prop
  | .done value, files => post value files
  | .stat name next, files => kept files ∧ Safe kept post (next (files name).isSome) files
  | .read name next, files => kept files ∧ Safe kept post (next (files name)) files
  | .write name bytes next, files => kept files ∧
      Safe kept post (next true) (Function.update files name (some bytes)) ∧
      ∀ left, Safe kept post (next false) (Function.update files name left)
  | .rename source target next, files => kept files ∧ Safe kept post (next false) files ∧
      ∀ bytes, files source = some bytes →
        Safe kept post (next true) (files.move source target bytes)

variable {kept : Directory → Prop} {post : α → Directory → Prop}

theorem Safe.mono {kept' : Directory → Prop} {post' : α → Directory → Prop}
    {program : FileProgram α} {files : Directory} (h : Safe kept post program files)
    (hkept : ∀ files, kept files → kept' files)
    (hpost : ∀ value files, post value files → post' value files) :
    Safe kept' post' program files := by
  induction program generalizing files with
  | done value => exact hpost _ _ h
  | stat name next ih => exact ⟨hkept _ h.1, ih _ h.2⟩
  | read name next ih => exact ⟨hkept _ h.1, ih _ h.2⟩
  | write name bytes next ih =>
    exact ⟨hkept _ h.1, ih _ h.2.1, fun left ↦ ih _ (h.2.2 left)⟩
  | rename source target next ih =>
    exact ⟨hkept _ h.1, ih _ h.2.1, fun bytes hsource ↦ ih _ (h.2.2 bytes hsource)⟩

theorem Safe.bind {post : β → Directory → Prop} {next : α → FileProgram β}
    {program : FileProgram α} {files : Directory}
    (h : Safe kept (fun value files ↦ Safe kept post (next value) files) program files) :
    Safe kept post (program.bind next) files := by
  induction program generalizing files with
  | done value => exact h
  | stat name rest ih => exact ⟨h.1, ih _ h.2⟩
  | read name rest ih => exact ⟨h.1, ih _ h.2⟩
  | write name bytes rest ih => exact ⟨h.1, ih _ h.2.1, fun left ↦ ih _ (h.2.2 left)⟩
  | rename source target rest ih =>
    exact ⟨h.1, ih _ h.2.1, fun bytes hsource ↦ ih _ (h.2.2 bytes hsource)⟩

theorem Safe.step {program : FileProgram α} {files : Directory} (h : Safe kept post program files)
    {reply : Reply} (hreply : reply.Observes) :
    Safe kept post (step reply program files).1 (step reply program files).2 := by
  obtain ⟨hfinds, hreads⟩ := hreply
  cases program with
  | done value => exact h
  | stat name next =>
    rw [FileProgram.step, hfinds, Bool.true_and]
    exact h.2
  | read name next =>
    rw [FileProgram.step, if_pos hreads]
    exact h.2
  | write name bytes next =>
    rw [FileProgram.step]
    split
    · exact h.2.1
    · exact h.2.2 _
  | rename source target next =>
    rw [FileProgram.step]
    split
    · exact h.2.1
    · split
      · next hsource _ => exact h.2.2 _ hsource
      · exact h.2.1

theorem Safe.run {program : FileProgram α} {files : Directory} (h : Safe kept post program files)
    {replies : List Reply} (hreplies : ∀ reply ∈ replies, reply.Observes) :
    Safe kept post (run (program, files) replies).1 (run (program, files) replies).2 :=
  foldl_invariant (P := fun state : FileProgram α × Directory ↦ Safe kept post state.1 state.2)
    (fun _ reply hmem hsafe ↦ hsafe.step (hreplies reply hmem)) h

theorem Safe.kept_of_stopped {program : FileProgram α} {files : Directory}
    (h : Safe kept post program files) (hstopped : program.result? = none) : kept files := by
  cases program with
  | done value => cases hstopped
  | stat | read | write | rename => exact h.1

theorem Safe.post_of_result {program : FileProgram α} {files : Directory}
    (h : Safe kept post program files) {value : α} (hresult : program.result? = some value) :
    post value files := by
  cases program with
  | done other =>
    cases hresult
    exact h
  | stat | read | write | rename => cases hresult

/-- A program that is given time returns what its safety promises. -/
theorem Safe.exec {program : FileProgram α} {files : Directory} (h : Safe kept post program files)
    {reply : Reply} (hreply : reply.Observes) :
    post (exec reply program files).1 (exec reply program files).2 := by
  obtain ⟨steps, hrun⟩ := exists_run_eq_exec reply program files
  have hsafe := h.run fun later (hmem : later ∈ List.replicate steps reply) ↦
    List.eq_of_mem_replicate hmem ▸ hreply
  rw [hrun] at hsafe
  exact hsafe

end FileProgram

end Foundation
