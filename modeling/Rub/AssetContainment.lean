import Rub.AssetBatch
import Rub.PosixPath

/-!
Saved assets stay in the output directory. Whatever a page says about an asset, its name keeps
a stem and an extension and has no separator, from the plan to the path that is reserved.
-/

namespace Rub

/-- A name with a stem and an extension, and without separator. -/
def AssetName (name : String) : Prop :=
  ∃ stem extension, HasParts name stem extension ∧ '/' ∉ stem ∧ '/' ∉ extension

variable {host : AssetHost} {name : String}

theorem AssetName.isFileName (named : AssetName name) : IsFileName name.toList := by
  obtain ⟨stem, extension, parts, stemSingle, extensionSingle⟩ := named
  have linked := parts.hasFileName
  simp only [hasFileName, Bool.and_eq_true, decide_eq_true_eq] at linked
  obtain ⟨⟨filled, notCurrent⟩, notParent⟩ := linked
  refine ⟨?_, ?_, ?_, ?_⟩
  · exact fun empty => filled (String.toList_eq_nil_iff.mp empty)
  · rw [parts.1]
    simp [stemSingle, extensionSingle]
  · exact fun current => notCurrent (String.toList_injective current)
  · exact fun parent => notParent (String.toList_injective parent)

theorem AssetName.withNumericSuffix (named : AssetName name) (sequence : Nat) :
    AssetName (withNumericSuffix name sequence) := by
  obtain ⟨stem, extension, parts, stemSingle, extensionSingle⟩ := named
  refine ⟨stem ++ '-' :: Nat.toDigits 10 sequence, extension,
    ⟨parts.toList_withNumericSuffix sequence, by simp, parts.2.2⟩, ?_, extensionSingle⟩
  have digits : '/' ∉ Nat.toDigits 10 sequence := not_mem_toDigits rfl sequence
  simp [stemSingle, digits]

theorem AssetName.withExtension (named : AssetName name) {ending : String}
    (separates : host.Separates) (ends : EndsName host ending) :
    AssetName (withExtension name ending) := by
  obtain ⟨stem, extension, parts, stemSingle, -⟩ := named
  obtain ⟨filled, dotless, single⟩ := ends
  have stemmed : fileStem name = some (String.ofList stem) := by
    simp [fileStem, parts.hasFileName, parts.rsplit]
  refine ⟨stem, ending.toList, ⟨?_, parts.2.1, ?_, dotless⟩, stemSingle, single separates⟩
  · simp [Rub.withExtension, stemmed, filled]
  · exact fun empty => filled (String.toList_eq_nil_iff.mp empty)

theorem endsName_of_contentType {contentType : HeaderValue} {extension : String}
    (found : contentTypeExtension contentType = some extension) : EndsName host extension := by
  obtain ⟨_, -, found⟩ := Option.bind_eq_some_iff.mp found
  simp only at found
  split at found
  all_goals cases found
  all_goals exact ⟨by decide, by decide, fun _ => by decide⟩

theorem endsName_of_sniffed {bytes : List UInt8} {extension : String}
    (found : sniffContentExtension bytes = some extension) : EndsName host extension := by
  unfold sniffContentExtension at found
  (repeat' split at found) <;> cases found
  all_goals exact ⟨by decide, by decide, fun _ => by decide⟩

variable {path : OutputPath}

theorem assetName_reconciled (contentType : Option HeaderValue)
    (firstChunk : Option (List UInt8)) (separates : host.Separates)
    (named : AssetName path.fileName) :
    (reconcileOutputPathWithBytes path contentType firstChunk).dir = path.dir ∧
      AssetName (reconcileOutputPathWithBytes path contentType firstChunk).fileName := by
  have typed : (reconcileOutputPath path contentType).dir = path.dir ∧
      AssetName (reconcileOutputPath path contentType).fileName := by
    unfold reconcileOutputPath
    split
    · split
      · exact ⟨rfl, named⟩
      · obtain ⟨_, -, found⟩ := Option.bind_eq_some_iff.mp ‹_›
        exact ⟨rfl, named.withExtension separates (endsName_of_contentType found)⟩
    · exact ⟨rfl, named⟩
  unfold reconcileOutputPathWithBytes
  simp only
  split
  · split
    · exact typed
    · obtain ⟨_, -, found⟩ := Option.bind_eq_some_iff.mp ‹_›
      exact ⟨typed.1, typed.2.withExtension separates (endsName_of_sniffed found)⟩
  · exact typed

theorem assetName_unique {reserved : Finset OutputPath} (named : AssetName path.fileName) :
    (reserveUniqueOutputPath path reserved).dir = path.dir ∧
      AssetName (reserveUniqueOutputPath path reserved).fileName := by
  have numbered : ∀ sequence, AssetName (numberedPath path sequence).fileName := by
    intro sequence
    obtain ⟨stem, extension, parts, -⟩ := id named
    simp only [numberedPath, parts.hasFileName, if_true]
    exact named.withNumericSuffix sequence
  unfold reserveUniqueOutputPath
  split
  · exact ⟨rfl, named⟩
  · cases search : firstFree reserved (numberedPath path) (reserved.card + 1) 2 with
    | none => exact ⟨rfl, named⟩
    | some found =>
      obtain ⟨-, sequence, rfl⟩ := firstFree_eq_some search
      exact ⟨rfl, numbered sequence⟩

theorem assetName_planned (separates : host.Separates) (outputDir url : String)
    (sourceName : Option String) (reservedNames : String → Option Nat) :
    let planned := (plannedOutputPath host outputDir url sourceName reservedNames).1
    planned.dir = outputDir ∧ AssetName planned.fileName := by
  obtain ⟨stem, extension, parts, single⟩ := @buildBaseFilename_parts host url sourceName
  have named : AssetName (buildBaseFilename host url sourceName) :=
    ⟨stem, extension, parts, single separates⟩
  unfold plannedOutputPath
  simp only
  split
  · exact ⟨rfl, named.withNumericSuffix _⟩
  · exact ⟨rfl, named⟩

/-- The path an asset is saved at is one normal component below the output directory, whatever
the URL, the names, the content and the reservations are. -/
theorem saved_asset_in_output_dir (separates : host.Separates) (outputDir url : String)
    (sourceName : Option String) (reservedNames : String → Option Nat)
    (contentType : Option HeaderValue) (firstChunk : Option (List UInt8))
    (reservedPaths : Finset OutputPath) :
    let planned := (plannedOutputPath host outputDir url sourceName reservedNames).1
    let path := (reserveReconciledOutputPath planned contentType firstChunk reservedPaths).1
    path.dir = outputDir ∧ IsFileName path.fileName.toList ∧
      ((PathBuf.mk outputDir.toList).join path.fileName.toList).components =
        (PathBuf.mk outputDir.toList).components ++ [.normal path.fileName.toList] := by
  intro planned path
  obtain ⟨plannedDir, plannedName⟩ := assetName_planned separates outputDir url sourceName
    reservedNames
  obtain ⟨reconciledDir, reconciledName⟩ := assetName_reconciled contentType firstChunk
    separates plannedName
  have placed : path.dir = outputDir ∧ AssetName path.fileName := by
    simp only [path, reserveReconciledOutputPath]
    split
    · exact ⟨reconciledDir.trans plannedDir, reconciledName⟩
    · obtain ⟨uniqueDir, uniqueName⟩ := assetName_unique reconciledName
      exact ⟨uniqueDir.trans (reconciledDir.trans plannedDir), uniqueName⟩
  have named := placed.2.isFileName
  exact ⟨placed.1, named, PathBuf.components_join _ named⟩

/-- A URL and a name that try to leave the directory. -/
theorem climbing_asset_in_output_dir :
    plainAssetHost.Separates ∧
    let planned := (plannedOutputPath plainAssetHost "out" "https://h/..%2fkey"
      (some "../../..") (fun _ => none)).1
    let path := (reserveReconciledOutputPath planned (some ⟨some "image/png"⟩) none ∅).1
    path.fileName = "2fkey.png" ∧ path.dir = "out" ∧ IsFileName path.fileName.toList ∧
      ((PathBuf.mk "out".toList).join path.fileName.toList).components =
        (PathBuf.mk "out".toList).components ++ [.normal path.fileName.toList] :=
  ⟨rfl, rfl, @saved_asset_in_output_dir plainAssetHost rfl "out" "https://h/..%2fkey"
    (some "../../..") (fun _ => none) (some ⟨some "image/png"⟩) none ∅⟩

end Rub
