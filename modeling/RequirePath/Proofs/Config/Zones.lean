import Mathlib.Data.List.Forall2
import RequirePath.Proofs.Config
import RequirePath.Proofs.Path.Climb
import RequirePath.Proofs.Path.NormalForm

/-! The allowed zones of a configuration beside its working tree. A zone is taken from the project root and its double dots
are removed by spelling, as those of the root are in another place; both end in the normal form of a path. So a zone
that does not lead out of the project lies in the working tree by its spelling too. -/

namespace RequirePath.Config

open LexicalPath (namesOf parse collapse StaysBelow)
open Pathname (ofText isAbsolute isWithin IsNormalForm)

variable {c : Config} {settings : Settings} {cwd zone : Pathname}

/-- The path that a zone means. -/
def zonePath (c : Config) (zone : Pathname) : LexicalPath := (c.inProject zone).collapse

theorem allowedZonePaths_eq (c : Config) : c.allowedZonePaths = c.allowedZones.map fun zone => (c.zonePath zone).spelling := rfl

theorem normal_zonePath (hroot : c.projectRoot.Normal) (zone : Pathname) : (c.zonePath zone).Normal := by
  have htidy := LexicalPath.tidy_join_parse hroot zone
  exact LexicalPath.normal_collapse htidy.isAbsolute htidy.names

theorem inProject_of_relative (c : Config) (hz : isAbsolute zone = false) :
    c.inProject zone = ⟨c.projectRoot.anchor, c.projectRoot.names ++ namesOf zone⟩ := by
  have hparse : (parse zone).isAbsolute = false := (Pathname.isAbsolute_parse_eq zone).trans hz
  rw [inProject, LexicalPath.join, hparse, if_neg Bool.false_ne_true]
  rfl

/-- A zone that stays below the root has the names of the root and more, and the slashes of the root at the front. -/
theorem isWithin_zonePath (hroot : c.projectRoot.Normal) (hz : isAbsolute zone = false) (hs : StaysBelow (namesOf zone)) :
    isWithin (c.zonePath zone).spelling c.workingTree = true := by
  have hdots : dotDot ∉ c.projectRoot.names := fun hm => (hroot.plain _ hm).ne_dotDot rfl
  have hanchor : (c.zonePath zone).anchor = c.projectRoot.anchor := by
    rw [zonePath, inProject_of_relative c hz]
    rfl
  refine (Pathname.isWithin_spelling_spelling_iff hroot (normal_zonePath hroot zone) fun _ => hanchor).2 ?_
  rw [zonePath, inProject_of_relative c hz]
  exact LexicalPath.prefix_collapse_append hroot.isAbsolute hdots hs

/-- Zones can be compared with the working tree. Whatever text the settings have for the root, and whichever absolute path
the program runs in, the path of each zone is in normal form; and the path of a relative zone that never leads above the
project root, taken name by name, is within the working tree. Without a text for the root the working directory is taken as
it is, so it must have no double dots then. -/
theorem allowedZonePaths_comparable (hcwd : isAbsolute cwd = true)
    (hdots : settings.lookup "project_root" = none → dotDot ∉ namesOf cwd)
    (h : ofSettings (parse cwd) settings = .ok c) :
    List.Forall₂ (fun zone path => IsNormalForm path ∧
        (isAbsolute zone = false → StaysBelow (namesOf zone) → isWithin path c.workingTree = true))
      c.allowedZones c.allowedZonePaths := by
  have hroot := normal_projectRoot (Pathname.tidy_parse hcwd) h hdots
  rw [allowedZonePaths_eq, List.forall₂_map_right_iff, List.forall₂_same]
  exact fun zone _ => ⟨(normal_zonePath hroot zone).isNormalForm, isWithin_zonePath hroot⟩

/-- A relative root in a working directory with two slashes at the front; a zone that goes up and down in the project, one
that leads out of it, and an absolute one. -/
theorem allowedZonePaths_comparable_sample :
    let cwd := ofText "//home/me/../you/"
    let settings : Settings := [("project_root", .text "./app//x/.."),
      ("allowed_zones", .list [.text "vendor/./gems/../opal/", .text "..", .text "/abs//zone/.."])]
    ∃ c, ofSettings (parse cwd) settings = .ok c ∧ c.workingTree = ofText "//home/you/app" ∧
      c.allowedZones = [ofText "vendor/./gems/../opal/", ofText "..", ofText "/abs//zone/.."] ∧
      c.allowedZonePaths = [ofText "//home/you/app/vendor/opal", ofText "//home/you", ofText "/abs"] ∧
      StaysBelow (namesOf (ofText "vendor/./gems/../opal/")) ∧
      List.Forall₂ (fun zone path => IsNormalForm path ∧
          (isAbsolute zone = false → StaysBelow (namesOf zone) → isWithin path c.workingTree = true))
        c.allowedZones c.allowedZonePaths := by
  intro cwd settings
  have hparts : (ofSettings (parse cwd) settings).map (fun c => (c.workingTree, c.allowedZones, c.allowedZonePaths)) =
      .ok (ofText "//home/you/app", [ofText "vendor/./gems/../opal/", ofText "..", ofText "/abs//zone/.."],
        [ofText "//home/you/app/vendor/opal", ofText "//home/you", ofText "/abs"]) := by
    decide +kernel
  have hgiven : settings.lookup "project_root" = some (.text "./app//x/..") := rfl
  cases hc : ofSettings (parse cwd) settings with
  | error issues =>
      rw [hc] at hparts
      cases hparts
  | ok c =>
      rw [hc] at hparts
      obtain ⟨htree, hlists⟩ := Prod.mk.inj (Except.ok.inj hparts)
      obtain ⟨hzones, hpaths⟩ := Prod.mk.inj hlists
      have hcomparable := allowedZonePaths_comparable (by decide) (fun hnone => nomatch hgiven.symm.trans hnone) hc
      exact ⟨c, rfl, htree, hzones, hpaths, by decide, hcomparable⟩

end RequirePath.Config
