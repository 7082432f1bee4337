import SwimSets.Command.Request

/-!
# The reference of the commands

Documents made from the description of the commands: one page in Markdown about all of them, and a
manual page for each. `Reference.documents` names the files; which of them are made, and where, is
asked by a command line of its own.
-/

namespace SwimSets.Reference

variable {α : Type}

/-! ## The page about all commands -/

/-- What a line of the page ends with. -/
def endLine (t : Text) : Text := t ++ ['\n']

/-- A line and an empty line after it. -/
def paragraph (t : Text) : Text := t ++ "\n\n".toList

/-- How an argument is written. -/
def label (a : Argument) : Text :=
  if a.isPositional then '<' :: (a.name.map Char.toUpper ++ ['>'])
  else
    match a.letter with
    | some c => '-' :: c :: ", --".toList ++ a.name
    | none => "--".toList ++ a.name

/-- An argument as an item of a list. -/
def argumentItem (a : Argument) : Text :=
  endLine ("- `".toList ++ label a ++ "`: ".toList ++ a.about)

/-- The arguments of a command below a heading, if it has any. -/
def argumentList (heading : Text) (i : CommandInfo) : Text :=
  if i.arguments.isEmpty then []
  else paragraph heading ++ i.arguments.flatMap argumentItem ++ ['\n']

/-- What is said of a command at length. -/
def detailBlock (i : CommandInfo) : Text :=
  match i.details with
  | some t => "```\n".toList ++ t ++ "\n```\n\n".toList
  | none => []

/-- A command inside a command of the program. -/
def innerSection (outer : Text) (c : Command α) : Text :=
  paragraph ("#### ".toList ++ Program.name ++ ' ' :: (outer ++ ' ' :: c.info.name)) ++
    paragraph c.info.about ++ argumentList "Arguments:" c.info

/-- A command of the program. -/
def commandSection (c : Command α) : Text :=
  paragraph ("## ".toList ++ Program.name ++ ' ' :: c.info.name) ++ paragraph c.info.about ++
    argumentList "### Arguments" c.info ++ detailBlock c.info ++
    c.members.flatMap (innerSection c.info.name) ++ paragraph "---"

/-- The line of a command in the table of contents. -/
def contentsItem (c : Command α) : Text :=
  endLine ("- [".toList ++ c.info.name ++ "](#".toList ++ Program.name ++ '-' :: (c.info.name ++
    [')']))

/-- The page about a program and its commands. -/
def page (c : Command α) : Text :=
  paragraph ("# ".toList ++ Program.name ++ " Command Reference".toList) ++
    paragraph "This document is auto-generated from the CLI definitions." ++
    paragraph "## Table of Contents" ++ c.members.flatMap contentsItem ++ "\n---\n\n".toList ++
    paragraph ("## ".toList ++ Program.name) ++ paragraph c.info.about ++ detailBlock c.info ++
    argumentList "### Global options" c.info ++ c.members.flatMap commandSection ++
    "\n*Generated by `cargo xtask gen-docs`*\n".toList

/-! ## Manual pages -/

/-- An argument in a manual page. -/
def manualItem (a : Argument) : Text :=
  ".TP\n".toList ++ endLine (label a) ++ endLine a.about

/-- The manual page of a command under the given title. -/
def manualPage (title : Text) (i : CommandInfo) : Text :=
  endLine (".TH ".toList ++ title ++ " 1".toList) ++ ".SH NAME\n".toList ++
    endLine (i.name ++ " \\- ".toList ++ i.about) ++ ".SH DESCRIPTION\n.nf\n".toList ++
    endLine (i.details.getD i.about) ++ ".fi\n".toList ++
    (if i.arguments.isEmpty then []
      else ".SH OPTIONS\n".toList ++ i.arguments.flatMap manualItem)

/-- The manual pages of a program, the commands inside a command directly after it: title and
text. -/
def manualPages (c : Command α) : List (Text × Text) :=
  let entry := fun (title : Text) (c : Command α) => (title, manualPage title c.info)
  entry Program.name c :: c.members.flatMap fun m =>
    let title := Program.name ++ '-' :: m.info.name
    entry title m :: m.members.map fun n => entry (title ++ '-' :: n.info.name) n

/-! ## Files -/

/-- A file that is made. -/
structure Document where
  path : Text
  content : Text
  deriving DecidableEq, Repr

/-- A path inside a directory. -/
def within (directory path : Text) : Text :=
  if directory.getLast? = some '/' then directory ++ path else directory ++ '/' :: path

/-- The manual pages in a directory. -/
def manualDocuments (directory : Text) : List Document :=
  (manualPages Program.command).map fun p =>
    ⟨within (within directory "man") (p.1 ++ ".1".toList), p.2⟩

/-- The page about all commands in a directory. -/
def pageDocument (directory : Text) : Document :=
  ⟨within directory "COMMANDS.md", page Program.command⟩

/-- The documents that are made in a directory: the manual pages, the page about all commands, or
both. Where neither is asked for, both are. -/
def documents (directory : Text) (manual allCommands : Bool) : List Document :=
  let both := !manual && !allCommands
  (if both || manual then manualDocuments directory else []) ++
    if both || allCommands then [pageDocument directory] else []

/-! ## The command line -/

/-- The commands of the program that makes the documents. -/
def command : Command Unit :=
  .group ⟨"tasks", "Build tasks for swimtally", none, []⟩ [
    .action ⟨"gen-docs", "Generate documentation from CLI definitions", none, [
      ⟨"output", some 'o', .option .path, "Output directory (default: docs/)"⟩,
      ⟨"man", none, .flag, "Generate man pages"⟩,
      ⟨"markdown", none, .flag, "Generate COMMANDS.md"⟩]⟩ ()]

/-- The documents that a command line asks for. -/
def read (words : List Text) : Except Stop (List Document) := do
  let (_, gs) ← Arguments.read command false words
  return documents ((Given.text? gs "output").getD "docs".toList) (Given.has gs "man")
    (Given.has gs "markdown")

/-- What is said of a document that was made. -/
def notice (d : Document) : Text := endLine ("Generated: ".toList ++ d.path)

end SwimSets.Reference
