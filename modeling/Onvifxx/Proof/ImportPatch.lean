/-
This file proves what the style sheet does to the imports of a document and when it is done with them.
-/

import Onvifxx.Construction.Patch
import Onvifxx.Library.PathName

namespace Onvifxx.Patch

open PathName

/-- The template finds the last part of a path. -/
theorem extractName_eq (path : List Char) : extractName path = lastPart '/' path := by
  fun_induction extractName path with
  | case1 path slash ih =>
      obtain ⟨before, after, rfl, absent⟩ := List.eq_append_cons_of_mem slash
      rw [ih, substringAfter_mark after absent, lastPart_separator]
  | case2 path clear => exact (lastPart_eq_self clear).symm

theorem envelope_slash {path : List Char} (envelope : envelopePart <:+: path) : '/' ∈ path :=
  envelope.subset (by decide)

theorem schemaFile_local (schemaUrl : List Char) : '/' ∉ schemaFile schemaUrl := by
  unfold schemaFile
  split
  · decide
  · rw [extractName_eq, extractName_eq]
    split <;> exact not_mem_lastPart _

/-- A local name keeps its extension or gets one. -/
theorem schemaFile_of_local {name : List Char} (plain : '/' ∉ name) :
    schemaFile name = if extension <:+: name then name else name ++ extension := by
  have envelope : ¬ envelopePart <:+: name := fun part => plain (envelope_slash part)
  have extended : '/' ∉ name ++ extension := by
    rw [List.mem_append, not_or]
    exact ⟨plain, by decide⟩
  rw [schemaFile, if_neg envelope, extractName_eq, extractName_eq, lastPart_eq_self plain,
    lastPart_eq_self extended, ite_not]

theorem extension_ne_nil : extension ≠ [] := by decide

/-- The file of a schema is settled when its address does not lose an extension from its path. -/
def Settled (schemaUrl : List Char) : Prop :=
  envelopePart <:+: schemaUrl ∨ ¬ extension <:+: schemaUrl ∨ extension <:+: lastPart '/' schemaUrl

theorem schemaFile_schemaFile_iff (schemaUrl : List Char) :
    schemaFile (schemaFile schemaUrl) = schemaFile schemaUrl ↔ Settled schemaUrl := by
  rw [schemaFile_of_local (schemaFile_local schemaUrl)]
  by_cases envelope : envelopePart <:+: schemaUrl
  · have ended : extension <:+: envelopeFile := by decide
    simp [schemaFile, Settled, envelope, ended]
  · by_cases ended : extension <:+: schemaUrl
    · simp only [schemaFile, envelope, ended, ↓reduceIte, not_true_eq_false, extractName_eq, Settled,
        false_or]
      by_cases kept : extension <:+: lastPart '/' schemaUrl
      · simp [kept]
      · simp [kept, extension_ne_nil]
    · have tail : extension <:+: extractName (schemaUrl ++ extension) := by
        rw [extractName_eq, lastPart_append schemaUrl (by decide)]
        exact (List.suffix_append _ _).isInfix
      simp only [schemaFile, envelope, ended, ↓reduceIte, not_false_eq_true] at tail ⊢
      simp [tail, Settled, ended]

/-- The style sheet rewrites the locations of these imports. -/
def Imports (parent name : Name) : Prop :=
  parent = wsdlImport ∧ name = location ∨ parent = xsImport ∧ name = schemaLocation

instance (parent name : Name) : Decidable (Imports parent name) := inferInstanceAs (Decidable (_ ∨ _))

theorem template_other {parent name : Name} (other : ¬ Imports parent name) (value : List Char) :
    template parent name value = value := by
  rw [Imports, not_or] at other
  rw [template, if_neg other.1, if_neg other.2]

/-- The imports of a document name a file of its own directory, and each other value is kept. -/
inductive Localized : Name → Name → List Char → List Char → Prop where
  | wsdl {address file : List Char} (last : IsLastPart '/' address file) :
      Localized wsdlImport location address file
  | envelope {address : List Char} (part : envelopePart <:+: address) :
      Localized xsImport schemaLocation address envelopeFile
  | extended {address file : List Char} (plain : ¬ envelopePart <:+: address)
      (bare : ¬ extension <:+: address) (last : IsLastPart '/' address file) :
      Localized xsImport schemaLocation address (file ++ extension)
  | kept {address file : List Char} (plain : ¬ envelopePart <:+: address)
      (ended : extension <:+: address) (last : IsLastPart '/' address file) :
      Localized xsImport schemaLocation address file
  | other {parent name : Name} (value : List Char) (other : ¬ Imports parent name) :
      Localized parent name value value

theorem template_wsdl (value : List Char) :
    template wsdlImport location value = lastPart '/' value := extractName_eq value

theorem template_schema (value : List Char) :
    template xsImport schemaLocation value =
      if envelopePart <:+: value then envelopeFile
      else if extension <:+: value then lastPart '/' value
      else lastPart '/' value ++ extension := by
  have rule : template xsImport schemaLocation value = schemaFile value := rfl
  rw [rule, schemaFile, extractName_eq, extractName_eq, lastPart_append value (by decide), ite_not]

theorem localized_iff (parent name : Name) (before after : List Char) :
    Localized parent name before after ↔ after = template parent name before := by
  constructor
  · intro localized
    cases localized with
    | wsdl last => rw [template_wsdl, isLastPart_iff.mp last]
    | envelope part => rw [template_schema, if_pos part]
    | extended plain bare last =>
        rw [template_schema, if_neg plain, if_neg bare, isLastPart_iff.mp last]
    | kept plain ended last =>
        rw [template_schema, if_neg plain, if_pos ended, isLastPart_iff.mp last]
    | other value other => rw [template_other other]
  · rintro rfl
    by_cases imports : Imports parent name
    · rcases imports with ⟨rfl, rfl⟩ | ⟨rfl, rfl⟩
      · rw [template_wsdl]
        exact .wsdl (isLastPart_lastPart before)
      · rw [template_schema]
        split_ifs with part ended
        · exact .envelope part
        · exact .kept part ended (isLastPart_lastPart before)
        · exact .extended part ended (isLastPart_lastPart before)
    · rw [template_other imports]
      exact .other before imports

/-- A patched document is the one whose imports are local and whose other parts are as before. -/
theorem patch_local (document result : Document) :
    patch document = result ↔ document.Corresponds Localized result :=
  (Content.corresponds_iff localized_iff document result).symm

/-- A second patch changes nothing exactly when each schema that a document imports is settled. -/
theorem patch_patch_iff (document : Document) :
    patch (patch document) = patch document ↔ ∀ schemaUrl,
      (xsImport, schemaLocation, schemaUrl) ∈ document.attributes → Settled schemaUrl := by
  rw [patch, patch, Content.rewrite_rewrite, Content.rewrite_eq_iff]
  constructor
  · intro same schemaUrl member
    exact (schemaFile_schemaFile_iff schemaUrl).mp (same _ _ _ member)
  · intro settled parent name value member
    by_cases imports : Imports parent name
    · rcases imports with ⟨rfl, rfl⟩ | ⟨rfl, rfl⟩
      · rw [template_wsdl, template_wsdl, lastPart_eq_self (not_mem_lastPart value)]
      · exact (schemaFile_schemaFile_iff value).mpr (settled value member)
    · rw [template_other imports, template_other imports]

end Onvifxx.Patch
