/-
This file translates the style sheet that makes the imports of a schema local.
-/

import Onvifxx.Library.Content

namespace Onvifxx.Patch

structure Name where
  space : String
  base : String
  deriving DecidableEq, Repr

/-- A text, a comment or an instruction has no attributes. -/
inductive Leaf where
  | text (value : String)
  | comment (value : String)
  | instruction (target data : String)
  deriving DecidableEq, Repr

abbrev Document := Content Name (List Char) Leaf

def wsdlImport : Name := ⟨"http://schemas.xmlsoap.org/wsdl/", "import"⟩

def xsImport : Name := ⟨"http://www.w3.org/2001/XMLSchema", "import"⟩

def location : Name := ⟨"", "location"⟩

def schemaLocation : Name := ⟨"", "schemaLocation"⟩

def envelopePart : List Char := "/envelope/".toList

def envelopeFile : List Char := "envelope.xsd".toList

def extension : List Char := ".xsd".toList

/-- The text after the first mark is empty when there is none. -/
def substringAfter (text : List Char) (mark : Char) : List Char := (text.dropWhile (· ≠ mark)).tail

theorem substringAfter_mark {before : List Char} {mark : Char} (after : List Char)
    (absent : mark ∉ before) : substringAfter (before ++ mark :: after) mark = after := by
  have clear : ∀ character ∈ before, decide (character ≠ mark) = true := by
    intro character member
    have other : character ≠ mark := fun same => absent (same ▸ member)
    simpa using other
  rw [substringAfter, List.dropWhile_append_of_pos clear]
  simp

/-- The template calls itself on the text after a slash until there is none. -/
def extractName (path : List Char) : List Char :=
  if '/' ∈ path then extractName (substringAfter path '/') else path
termination_by path.length
decreasing_by
  rename_i slash
  obtain ⟨before, after, rfl, absent⟩ := List.eq_append_cons_of_mem slash
  rw [substringAfter_mark after absent, List.length_append, List.length_cons]
  omega

/-- An envelope has its own file, and a name without an extension gets one. -/
def schemaFile (schemaUrl : List Char) : List Char :=
  if envelopePart <:+: schemaUrl then envelopeFile
  else if ¬ extension <:+: schemaUrl then extractName (schemaUrl ++ extension)
  else extractName schemaUrl

/-- Only the locations of the two kinds of imports have templates of their own. -/
def template (parent name : Name) (value : List Char) : List Char :=
  if parent = wsdlImport ∧ name = location then extractName value
  else if parent = xsImport ∧ name = schemaLocation then schemaFile value
  else value

/-- The other nodes are copied. -/
def patch (document : Document) : Document := document.rewrite template

end Onvifxx.Patch
