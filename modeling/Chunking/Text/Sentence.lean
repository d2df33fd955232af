import Chunking.Text.Basic
import Chunking.Text.Sentence.Class

/-!
# Sentences

Division of a text at its sentence boundaries.  Whether a boundary stands before
a character depends on the class of that character, on the parts before it, and
in one rule on what follows.
-/

namespace Chunking.Text.Sentence

/-- What the rules remember of a character that has been read. -/
inductive Part where
  | carriageReturn
  | lineFeed
  | separator
  | point
  | terminator
  | close
  | space
  | cased
  | other
deriving DecidableEq

def CharClass.part : CharClass → Part
  | .carriageReturn => .carriageReturn
  | .lineFeed => .lineFeed
  | .separator => .separator
  | .point => .point
  | .terminator => .terminator
  | .close => .close
  | .space => .space
  | .upper => .cased
  | .lower => .cased
  | _ => .other

abbrev History := List Part

namespace History

/-- Read one more character.  Runs of closing marks and of spaces count once. -/
def read (history : History) (charClass : CharClass) : History :=
  match charClass, history with
  | .close, .close :: _ => history
  | .space, .space :: _ => history
  | _, _ => charClass.part :: history

/-- Step back over one part of the given sort, where there is one. -/
def skip (history : History) (part : Part) : History :=
  match history with
  | newest :: older => if newest = part then older else newest :: older
  | [] => []

def skipSeparator (history : History) : History :=
  match history with
  | .separator :: older => older
  | .carriageReturn :: older => older
  | .lineFeed :: older => older
  | _ => history

def endsInSeparator (history : History) : Bool :=
  match history with
  | .separator :: _ | .carriageReturn :: _ | .lineFeed :: _ => true
  | _ => false

def endsInPoint (history : History) : Bool :=
  history.head? == some .point

def endsInStop (history : History) : Bool :=
  history.head? == some .point || history.head? == some .terminator

end History

/--
Whether the first letter, separator or stop of a text is a lower-case letter.
Everything else in front of it is passed over.
-/
def continuesLower : Text → Bool
  | [] => false
  | c :: rest =>
      match classOf c with
      | .lower => true
      | .letter | .upper | .separator | .carriageReturn | .lineFeed | .terminator | .point => false
      | _ => continuesLower rest

inductive Effect where
  | starts
  | joins
  /-- It belongs to the sentence and the rules do not see it. -/
  | vanishes
deriving DecidableEq

def CharClass.separates : CharClass → Bool
  | .separator | .carriageReturn | .lineFeed => true
  | _ => false

/--
The effect of the first character of `ahead`, whose class is given.  The first
rule that applies decides.
-/
def effect (history : History) (charClass : CharClass) (ahead : Text) : Effect :=
  let spaceless := (history.skip .space).skip .close
  if history.isEmpty then .starts
  else if charClass = .lineFeed ∧ history.head? = some .carriageReturn then .joins
  else if history.endsInSeparator then .starts
  else if charClass = .extend ∨ charClass = .format then .vanishes
  else if charClass = .numeric ∧ history.endsInPoint then .joins
  else if charClass = .upper ∧ history.take 2 = [.point, .cased] then .joins
  else if spaceless.endsInPoint ∧ continuesLower ahead then .joins
  else if (charClass = .continuation ∨ charClass = .terminator ∨ charClass = .point) ∧
      spaceless.endsInStop then .joins
  else if (charClass = .close ∨ charClass = .space ∨ charClass.separates) ∧
      (history.skip .close).endsInStop then .joins
  else if (charClass = .space ∨ charClass.separates) ∧ spaceless.endsInStop then .joins
  else if ((history.skipSeparator.skip .space).skip .close).endsInStop then .starts
  else .joins

/-- The rest of the running sentence, and the sentences after it. -/
def divideFrom (history : History) : Text → Text × List Text
  | [] => ([], [])
  | c :: rest =>
      let charClass := classOf c
      match effect history charClass (c :: rest) with
      | .starts =>
          let (running, later) := divideFrom (history.read charClass) rest
          ([], (c :: running) :: later)
      | .joins =>
          let (running, later) := divideFrom (history.read charClass) rest
          (c :: running, later)
      | .vanishes =>
          let (running, later) := divideFrom history rest
          (c :: running, later)

def divide (text : Text) : List Text :=
  (divideFrom [] text).2

theorem divideFrom_join (history : History) (text : Text) :
    (divideFrom history text).1 ++ (divideFrom history text).2.flatten = text := by
  induction text generalizing history with
  | nil => rfl
  | cons c rest ih =>
      simp only [divideFrom]
      split
      · simp [ih]
      · simp [ih]
      · simp [ih]

theorem divideFrom_nil_fst (text : Text) : (divideFrom [] text).1 = [] := by
  cases text with
  | nil => rfl
  | cons c rest => simp [divideFrom, effect]

theorem flatten_divide (text : Text) : (divide text).flatten = text := by
  have h := divideFrom_join [] text
  rwa [divideFrom_nil_fst, List.nil_append] at h

theorem ne_nil_of_mem_divideFrom {history : History} {text sentence : Text}
    (h : sentence ∈ (divideFrom history text).2) : sentence ≠ [] := by
  induction text generalizing history with
  | nil => simp [divideFrom] at h
  | cons c rest ih =>
      simp only [divideFrom] at h
      split at h
      · rcases List.mem_cons.1 h with rfl | h
        · simp
        · exact ih h
      · exact ih h
      · exact ih h

theorem ne_nil_of_mem_divide {text sentence : Text} (h : sentence ∈ divide text) :
    sentence ≠ [] :=
  ne_nil_of_mem_divideFrom h

end Chunking.Text.Sentence
