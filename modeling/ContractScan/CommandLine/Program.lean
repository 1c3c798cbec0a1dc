import ContractScan.Fetch.Call
import ContractScan.Settings.Environment

/-!
# Programs

What a run needs from outside, as data: a program is a result, or a question with a program for
each answer. `Program.perform` runs it in any monad that can answer questions, so what a program
does can be stated without the outside.
-/

namespace ContractScan

/-- Why a file could not be read or written, in the system's words. -/
structure FileError where
  message : String
deriving DecidableEq, Repr

namespace FileError

/-- There is nothing of that name. -/
def notFound : FileError := ⟨"No such file or directory (os error 2)"⟩

/-- A file was expected. -/
def isDirectory : FileError := ⟨"Is a directory (os error 21)"⟩

/-- A directory was expected. -/
def notDirectory : FileError := ⟨"Not a directory (os error 20)"⟩

/-- A name or the whole path is longer than the system takes. -/
def nameTooLong : FileError := ⟨"File name too long (os error 36)"⟩

/-- The content is no text. -/
def notText : FileError := ⟨"stream did not contain valid UTF-8"⟩

end FileError

/-- What a program asks of the outside. -/
inductive Question
  /-- Whether the path leads to a file. -/
  | isFile (path : String)
  /-- The text of a file. -/
  | read (path : String)
  /-- That a file is given a text. -/
  | write (path text : String)
  /-- The values of environment variables, at least those that are named. -/
  | environment (names : List String)
  /-- The reply to a request that is sent as the settings say. -/
  | send (settings : FetchSettings) (request : Request)
  /-- The time, as text. -/
  | time

/-- What the answer to a question is. -/
@[reducible] def Question.Answer : Question → Type
  | .isFile _ => Bool
  | .read _ => Except FileError String
  | .write _ _ => Except FileError Unit
  | .environment _ => Environment
  | .send _ _ => Reply
  | .time => String

/-- A run that asks questions on the way to its result. -/
inductive Program (α : Type) : Type
  | done (result : α)
  | ask (question : Question) (next : question.Answer → Program α)

namespace Program

/-- A program followed by another that depends on its result. -/
def andThen (p : Program α) (f : α → Program β) : Program β :=
  match p with
  | .done a => f a
  | .ask q next => .ask q fun answer ↦ (next answer).andThen f

instance : Monad Program where
  pure := .done
  bind := andThen

/-- A single question. -/
def question (q : Question) : Program q.Answer := .ask q .done

/-- The result of the program when its questions are answered one after the other. -/
def perform [Monad m] (answer : (q : Question) → m q.Answer) : Program α → m α
  | .done a => pure a
  | .ask q next => answer q >>= fun a ↦ (next a).perform answer

/-- A result in place of a question. -/
@[simp] theorem perform_done [Monad m] (answer : (q : Question) → m q.Answer) (a : α) :
    (Program.done a).perform answer = pure a := rfl

/-- A program does its parts one after the other. -/
theorem perform_andThen [Monad m] [LawfulMonad m] (answer : (q : Question) → m q.Answer)
    (p : Program α) (f : α → Program β) :
    (p.andThen f).perform answer = p.perform answer >>= fun a ↦ (f a).perform answer := by
  induction p with
  | done a => simp [andThen, perform]
  | ask q next ih => simp [andThen, perform, ih]

end Program

end ContractScan
