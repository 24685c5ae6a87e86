import Enquiry.Host.Octets
import Enquiry.Regex.Search

/-!
# Commands of the stream editor

A command has up to two addresses, which say for which lines it is meant, and an action. Commands
stand one behind another; a block is skipped by a jump to its end.
-/

namespace Enquiry.Tool.Sed

open Host

/-- Which lines are meant. -/
inductive Address where
  | line (n : Nat)
  /-- From a line on, every so many lines. -/
  | step (first step : Nat)
  | last
  /-- Lines in which an expression stands; without one, the last expression that has been used. -/
  | regex (r : Option Regex)

/-- Where a range of lines ends. -/
inductive Stop where
  | address (a : Address)
  /-- So many lines on. -/
  | plus (n : Nat)
  /-- At the next line whose number is a multiple. -/
  | multiple (n : Nat)

/-- How letters are changed in what is put in. -/
inductive Casing where
  | upper | lower | upperOne | lowerOne | stop
  deriving DecidableEq, Repr

/-- A part of what is put in the place of an expression. -/
inductive Part where
  | text (t : Octets)
  | group (n : Nat)
  | casing (c : Casing)
  deriving DecidableEq, Repr

structure Substitution where
  regex : Option Regex
  parts : List Part
  everywhere : Bool
  /-- The number of the first place that is changed. -/
  nth : Nat
  prints : Bool
  /-- What comes of it is a command, in the place of which its output is put. -/
  runs : Bool
  file : Option Octets

inductive Condition where
  | always | changed | unchanged
  deriving DecidableEq, Repr

inductive Action where
  /-- A block, which ends at some command. -/
  | block (stop : Nat)
  | nothing
  | append (text : Octets)
  | insert (text : Octets)
  | change (text : Octets)
  /-- Goes on at a label; at the end without one. -/
  | jump (condition : Condition) (label : Octets)
  | label (name : Octets)
  | delete | deleteFirst
  /-- Runs a command and writes its output; without one, the line is a command, in the place of
  which its output is put. -/
  | run (command : Octets)
  | get | getAppend | hold | holdAppend | exchange
  | list (width : Option Nat)
  | next | nextAppend
  | print | printFirst
  | quit (status : Nat) (quietly : Bool)
  | readFile (name : Octets)
  | readLine (name : Octets)
  | substitute (s : Substitution)
  | writeFile (name : Octets)
  | writeFirst (name : Octets)
  | translate (table : List (Char × Char))
  | number
  | clear
  | fileName

structure Command where
  start : Option Address
  stop : Option Stop
  negated : Bool
  action : Action

/-- The numbers of the commands at which labels stand. -/
def labels (commands : List Command) : List (Octets × Nat) :=
  commands.zipIdx.filterMap fun (c, i) =>
    match c.action with
    | .label name => some (name, i)
    | _ => none

/-- The labels at which commands go on. -/
def targets (commands : List Command) : List Octets :=
  commands.filterMap fun c =>
    match c.action with
    | .jump _ label => if label.isEmpty then none else some label
    | _ => none

end Enquiry.Tool.Sed
