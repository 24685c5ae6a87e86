import Enquiry.Host.Octets

/-!
# Commands of the shell

What scripts are made of. A word is a row of parts, which are put together when it is expanded;
what stands in quotes is kept together then, and stands for itself in patterns.
-/

namespace Enquiry.Shell

open Host

/-- How much of a value a pattern cuts off, and where. -/
inductive Cut where
  | shortStart | longStart | shortEnd | longEnd
  deriving DecidableEq, Repr

/-- Where a pattern has to stand in a value that is changed. -/
inductive Spot where
  | first | all | atStart | atEnd
  deriving DecidableEq, Repr

/-- How a file is used by a redirection. -/
inductive FileUse where
  | input | output | append | clobber | update
  deriving DecidableEq, Repr

mutual

/-- A part of a word. -/
inductive Part where
  | text (quoted : Bool) (chars : Octets)
  /-- Quotes stand here, even if there is nothing between them. -/
  | mark
  | parameter (quoted : Bool) (name : String) (use : Use)
  /-- The output of a command. -/
  | command (quoted : Bool) (body : Option Command)
  | arithmetic (quoted : Bool) (expression : List Part)

/-- What is made of the value of a parameter. -/
inductive Use where
  | value
  | length
  /-- Another value when it is not set, or with `emptyToo` when it is empty. -/
  | default (emptyToo : Bool) (word : List Part)
  /-- The same, and the parameter keeps that value. -/
  | assign (emptyToo : Bool) (word : List Part)
  /-- Another value when it is set. -/
  | alternative (emptyToo : Bool) (word : List Part)
  /-- The value, which is required; the word is the complaint. -/
  | require (emptyToo : Bool) (word : List Part)
  /-- The value less what a pattern matches at one of its ends. -/
  | cut (how : Cut) (pattern : List Part)
  /-- A part of the value: from an offset on, and so long. -/
  | slice (offset : List Part) (size : Option (List Part))
  /-- The value with what a pattern matches replaced. -/
  | replace (spot : Spot) (pattern replacement : List Part)
  /-- The value with its first letter, or all of them, in the other case. -/
  | recase (upper all : Bool)
  /-- No use that the shell knows. -/
  | bad

/-- A command. Where a line is given, it is the one on which the command begins. -/
inductive Command where
  | simple (line : Nat) (assignments words : List (List Part)) (redirects : List Redirect)
  /-- Each command reads what the one before it writes. -/
  | pipeline (background : Bool) (stages : List Command)
  | background (line : Nat) (body : Command) (redirects : List Redirect)
  | subshell (line : Nat) (body : Command) (redirects : List Redirect)
  | redirected (line : Nat) (body : Command) (redirects : List Redirect)
  | negated (body : Command)
  | both (first second : Command)
  | either (first second : Command)
  | sequence (first second : Command)
  | branch (condition yes : Command) (no : Option Command)
  /-- Repeats for as long as the condition succeeds, or with `negated` fails. -/
  | loop (negated : Bool) (condition body : Command)
  /-- Repeats for each field of some words, or for each argument. -/
  | each (line : Nat) (name : String) (words : Option (List (List Part))) (body : Command)
  /-- Runs the command of the first pattern that matches a word. -/
  | select (line : Nat) (word : List Part) (arms : List (List (List Part) × Option Command))
  | define (line : Nat) (name : String) (body : Command)

inductive Redirect where
  | file (descriptor : Nat) (use : FileUse) (name : List Part)
  /-- The descriptor becomes the same as another one, or is closed. -/
  | copy (descriptor : Nat) (other : List Part)
  /-- The descriptor leads to a text that is read, the one with a number. -/
  | document (descriptor : Nat) (number : Nat)
  /-- The descriptor leads to a word and a line end. -/
  | string (descriptor : Nat) (word : List Part)

end

/-- A word. -/
abbrev Word := List Part

end Enquiry.Shell
