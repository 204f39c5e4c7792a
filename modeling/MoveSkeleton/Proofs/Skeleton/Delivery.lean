import MoveSkeleton.Proofs.Resolution.Requests
import MoveSkeleton.Proofs.Skeleton.Draft
import MoveSkeleton.Proofs.Skeleton.Progress

/-! One package written to a folder that may hold anything. What has been written is all of the
package or the first of its sources, the manifest comes last, and nothing else changes. -/
namespace MoveSkeleton.Skeleton

open Resolution Activity

/-- The items have been written in turn in the folder of a package, and folders that were missing on
the way to its sources are there. Everything else is as it was. -/
structure Leaves (d : Disk) (folder : Path) (es : List DiskItem) (d' : Disk) : Prop where
  here : d'.here = d.here
  /-- Where anything has been written, the path does lead to its own place. -/
  leads : es = [] ∨ d'.At folder (d.place folder)
  written : ∀ k ∈ es.map (·.1),
    d'.item? (d.place folder ++ k) = Disk.overlay es (fun _ => none) k
  others : ∀ k, (∀ a ∈ es, k ≠ d.place folder ++ a.1) → d'.item? k = d.item? k ∨
    d.item? k = none ∧ d'.item? k = some none ∧
      d'.Passes (folder.below [Text.ofString sourcesFolder]) k

variable {c : Client} {v v' : World} {p : PackageId} {folder : Path} {d e d' : Disk}
  {es fs : List DiskItem} {isRoot : Bool} {record : Package}

theorem Leaves.of_gains (h : Disk.Creates d (folder.below [Text.ofString sourcesFolder]) e)
    (hg : Disk.Gains e (under (d.place folder) es) d')
    (hat : es = [] ∨ e.At folder (d.place folder)) : Leaves d folder es d' where
  here := hg.here.trans h.grows.here
  leads := hat.imp_right hg.toGrows.at
  written k hk := by
    rw [hg.items, overlay_under]
    exact Disk.overlay_eq_of_mem hk _
  others k hk := by
    have hnone : k ∉ (under (d.place folder) es).map (·.1) := by
      intro hm
      obtain ⟨b, hb, rfl⟩ := List.mem_map.mp hm
      obtain ⟨a, ha, rfl⟩ := List.mem_map.mp hb
      exact hk a ha rfl
    rw [hg.items, Disk.overlay_of_notMem hnone]
    obtain ⟨gs, hgs, hnew⟩ := h
    by_cases hm : k ∈ gs.map (·.1)
    · obtain ⟨b, hb, rfl⟩ := List.mem_map.mp hm
      obtain ⟨-, hfree, before, name, after, hparts, hname, hr⟩ := hnew b hb
      refine .inr ⟨hfree, hgs.folder_of_mem (fun a ha => (hnew a ha).1) hm,
        before, name, after, hparts, hname, ?_⟩
      rw [hg.start]
      exact hg.reaches hr
    · rw [hgs.items, Disk.overlay_of_notMem hm]
      exact .inl rfl

/-- A package without a record is not begun: only its record has been asked for. -/
theorem writePackage_unrecorded {e : Failure} (h : recordOf (answersAt c v) p = .error e) :
    ∃ v', Fails (writePackage c p folder isRoot) v e v' ∧ v'.disk = v.disk ∧
      v'.requests = v.requests ++ c.resourcesRequests [p] := by
  let u : World := { v with events := v.events ++ [.downloading p] }
  have hread : (c.readResources p.account u).1 = answersAt c v p.account :=
    (Prod.mk.inj
      ((c.resourcesAt_node p.account u).symm.trans (c.resourcesAt_node p.account v))).1
  have hfiles : Fails (writeFiles c p folder isRoot) u e (c.readResources p.account u).2 := by
    rw [recordOf, ← hread] at h
    cases hr : (c.readResources p.account u).1 with
    | error e' =>
      rw [hr] at h
      obtain rfl := Except.error.inj h
      exact fails_bind.mpr (.inl (fails_of_fst hr))
    | ok rs =>
      rw [hr] at h
      exact fails_bind.mpr (.inr ⟨rs, _, returns_of_fst hr,
        fails_bind.mpr (.inl (fails_ofResult.mpr ⟨h, rfl⟩))⟩)
  obtain ⟨events, hnoted⟩ := run_notingFailure_eq Failure.isExpected (.downloadFailed p)
    (writeFiles c p folder isRoot) u
  rw [hfiles.after_eq, show _ = _ from hfiles] at hnoted
  exact ⟨_, fails_note_bind.mpr hnoted, c.readResources_disk p.account u,
    c.readResources_requests p u⟩

theorem recordOf_of_told {n : Node} (h : Told c p v.node record n) :
    recordOf (answersAt c v) p = .ok record := by
  obtain ⟨rs, hr, hreq⟩ := h
  rw [Client.resourcesAt_node] at hr
  exact recordOf_eq_ok_iff.mpr ⟨rs, congrArg Prod.fst hr, hreq⟩

/-- Sources are not written over a manifest. -/
theorem FirstSources.manifest_notMem {n : Node} {account : Text} {ms : List Text}
    (h : FirstSources c account ms n es) : [Text.ofString Manifest.fileName] ∉ es.map (·.1) := by
  intro hm
  obtain ⟨a, ha, hfile⟩ := List.mem_map.mp hm
  induction h with
  | stop => cases ha
  | spoilt =>
    obtain rfl := List.mem_singleton.mp ha
    cases congrArg List.length hfile
  | cons _ _ _ ih =>
    rcases List.mem_cons.mp ha with rfl | ha
    · cases congrArg List.length hfile
    · exact ih (List.mem_map.mpr ⟨a, ha, hfile⟩) ha

/-- A package that fails leaves the manifest from before, unless its own cannot be encoded. -/
theorem Leaves.manifest_kept {content : ByteArray} (h : Leaves d folder fs d')
    (hpart : Part c isRoot p v.node (packageFolders ++ fs))
    (hold : d.item? (d.place folder ++ [Text.ofString Manifest.fileName]) = some (some content)) :
    d'.item? (d.place folder ++ [Text.ofString Manifest.fileName]) = some (some content) ∨
      d'.item? (d.place folder ++ [Text.ofString Manifest.fileName]) = some (some .empty) ∧
        ∃ record fault, recordOf (answersAt c v) p = .ok record ∧
          (Manifest.text isRoot p.name record).toUtf8 = .error fault := by
  have hkept : [Text.ofString Manifest.fileName] ∉ fs.map (·.1) →
      d'.item? (d.place folder ++ [Text.ofString Manifest.fileName]) = some (some content) := by
    intro hm
    rcases h.others _ fun a ha he =>
        hm (List.mem_map.mpr ⟨a, ha, (List.append_cancel_left he).symm⟩) with hsame | ⟨hnone, -⟩
    · exact hsame.trans hold
    · cases hnone.symm.trans hold
  generalize hall : packageFolders ++ fs = all at hpart
  cases hpart with
  | folders first =>
    obtain rfl : fs = [] := by
      have hlength := first.length_le
      rw [← hall, List.length_append] at hlength
      exact List.length_eq_zero_iff.mp (by omega)
    exact .inl (hkept List.not_mem_nil)
  | sources told first =>
    obtain rfl := List.append_cancel_left hall
    exact .inl (hkept first.manifest_notMem)
  | spoilt told sources manifest =>
    obtain rfl := List.append_cancel_left hall
    refine .inr ⟨?_, _, _, recordOf_of_told told, manifest⟩
    rw [h.written _ (by simp [manifestItem]), Disk.overlay_append, Disk.overlay_singleton]
    exact Function.update_self ..

/-- Writing a package to a folder, whatever is there already. Without a record nothing is written
and no module is asked for. If the package fails, at most its folders are new and the first of its
sources have been written, each as the node told of it, and a manifest that stood there is kept. If
it is written, its sources and at last its manifest have been, the last source of a name over those
before it. A file whose text cannot be encoded is left without one. Nothing else has changed. -/
theorem writePackage_delivers
    (hms : ∀ record, recordOf (answersAt c v) p = .ok record → ∀ m ∈ record.modules, m.SlashFree) :
    (∀ e, recordOf (answersAt c v) p = .error e →
      ∃ v', Fails (writePackage c p folder isRoot) v e v' ∧ v'.disk = v.disk ∧
        v'.requests = v.requests ++ c.resourcesRequests [p] ∧
        ∀ r ∈ c.resourcesRequests [p], ∀ m, r.url ≠ c.interfaceUrl p.account m) ∧
    (∀ e v', Fails (writePackage c p folder isRoot) v e v' →
      ∃ fs, Part c isRoot p v.node (packageFolders ++ fs) ∧ Leaves v.disk folder fs v'.disk ∧
        ∀ content,
          v.disk.item? (v.disk.place folder ++ [Text.ofString Manifest.fileName]) =
            some (some content) →
          v'.disk.item? (v.disk.place folder ++ [Text.ofString Manifest.fileName]) =
              some (some content) ∨
            v'.disk.item? (v.disk.place folder ++ [Text.ofString Manifest.fileName]) =
                some (some .empty) ∧
              ∃ record fault, recordOf (answersAt c v) p = .ok record ∧
                (Manifest.text isRoot p.name record).toUtf8 = .error fault) ∧
    ∀ y v', Returns (writePackage c p folder isRoot) v y v' →
      y = folder.join Manifest.fileName ∧
      ∃ fs, Whole c isRoot p v.node (packageFolders ++ fs) v'.node ∧
        Leaves v.disk folder fs v'.disk := by
  have htold : ∀ record n, Told c p v.node record n → ∀ m ∈ record.modules, m.SlashFree :=
    fun record _ h => hms record (recordOf_of_told h)
  refine ⟨fun e h => ?_, fun e v' h => ?_, fun y v' h => ?_⟩
  · obtain ⟨v', hfails, hdisk, hrequests⟩ :
        ∃ v', Fails (writePackage c p folder isRoot) v e v' ∧ _ := writePackage_unrecorded h
    refine ⟨v', hfails, hdisk, hrequests, fun r hr m => ?_⟩
    obtain ⟨q, hq, rfl⟩ := List.mem_map.mp hr
    rw [List.mem_singleton.mp (List.mem_filter.mp hq).1]
    exact c.resourcesUrl_ne_interfaceUrl_same p.account m
  · obtain ⟨d, fs, hcreates, hg, hfs⟩ := writePackage_halts htold h
    have hpart : Part c isRoot p v.node (packageFolders ++ fs) := by
      rcases hfs with rfl | ⟨-, hpart⟩
      · exact .folders (by rw [List.append_nil])
      · exact hpart
    have hleaves : Leaves v.disk folder fs v'.disk := by
      refine .of_gains hcreates hg (hfs.imp_right fun ⟨hens, _⟩ => ?_)
      exact (hens.at_place isName_sources.2).2.2.1
    exact ⟨fs, hpart, hleaves, fun content => hleaves.manifest_kept hpart⟩
  · obtain ⟨d, fs, hens, hwhole, hg⟩ := writePackage_writes htold h
    obtain ⟨-, -, hat, -⟩ := hens.at_place isName_sources.2
    obtain ⟨-, -, -, -, -, -, -, -, -, -, -, hy, -⟩ := returns_writePackage.mp h
    exact ⟨join_manifest ▸ hy, fs, hwhole, .of_gains hens.gains hg (.inr hat)⟩

namespace Sample

open MoveSkeleton.Sample Resolution.Sample

def written : Path := Path.ofText "out"

/-- A disk with a source and a manifest from before in a folder. -/
def littered : Disk :=
  { root := (Tree.empty.put ["w", "out", "sources", "old.move"] (.file "old".toUTF8)).put
      ["w", "out", "Move.toml"] (.file "old".toUTF8)
    here := ["w"] }

/-- A package that lists a module twice, of which something else is told at the second request. -/
def twice : World where
  node := [(client.resourcesUrl "0xa", [answer (resources [package "P" [] ["p", "p"]])]),
    (client.interfaceUrl "0xa" "p", [answer (interface "0xa" "p"), answer (interface "0xa" "q")])]
  disk := littered

/-- A package of which the second module is missing. -/
def torn : World where
  node := [(client.resourcesUrl "0xa", [answer (resources [package "P" [] ["p", "q"]])]),
    (client.interfaceUrl "0xa" "p", [answer (interface "0xa" "p")])]
  disk := littered

/-- A package whose manifest names a framework package that cannot be encoded. -/
def surrogate : World where
  node := [(client.resourcesUrl "0xa",
    [answer (resources [package "P" [("0x1", ⟨[.ofNat 0xd800]⟩)] []])])]
  disk := littered

/-- The package as it is written to the folder. -/
private def writing : Activity Path := writePackage client ⟨"0xa", "P"⟩ written true

private theorem twice_runs :
    (recordOf (answersAt client twice) ⟨"0xa", "P"⟩).toOption =
        some { name := "P", dependencies := [], modules := ["p", "p"] } ∧
      (writing.run.run twice).1.toOption.isSome ∧
      (after writing twice).disk.item? ["w", "out", "sources", "p.move"] =
        some (some "module 0xa::q \x7b\n\n\n\x7d".toUTF8) ∧
      (after writing twice).disk.item? ["w", "out", "sources", "old.move"] =
        some (some "old".toUTF8) := by
  decide +kernel

private theorem torn_runs :
    (recordOf (answersAt client torn) ⟨"0xa", "P"⟩).toOption =
        some { name := "P", dependencies := [], modules := ["p", "q"] } ∧
      (writing.run.run torn).1.toOption.isNone ∧
      (after writing torn).disk.item? ["w", "out", "sources", "p.move"] =
        some (some "module 0xa::p \x7b\n\n\n\x7d".toUTF8) := by
  decide +kernel

private theorem surrogate_runs :
    (recordOf (answersAt client surrogate) ⟨"0xa", "P"⟩).toOption.map (·.modules) = some [] ∧
      (writing.run.run surrogate).1.toOption.isNone ∧
      (after writing surrogate).disk.item? ["w", "out", "Move.toml"] = some (some .empty) := by
  decide +kernel

theorem slashFree_of_record {record : Package}
    (h : (recordOf (answersAt client v) p).toOption = some record)
    (hms : ∀ m ∈ record.modules, m.SlashFree) :
    ∀ record, recordOf (answersAt client v) p = .ok record → ∀ m ∈ record.modules, m.SlashFree := by
  intro record' h'
  obtain rfl := Except.ok.inj ((eq_ok h).symm.trans h')
  exact hms

end Sample

/-- For a module that is listed twice and told of anew, and for one that is missing. -/
theorem writePackage_delivers_again :
    let c := MoveSkeleton.Sample.client
    let p : PackageId := ⟨"0xa", "P"⟩
    let folder := Sample.written
    (∃ y v', Returns (writePackage c p folder true) Sample.twice y v' ∧
      (∃ fs, Whole c true p Sample.twice.node (packageFolders ++ fs) v'.node ∧
        Leaves Sample.twice.disk folder fs v'.disk) ∧
      v'.disk.item? ["w", "out", "sources", "p.move"] =
        some (some "module 0xa::q \x7b\n\n\n\x7d".toUTF8) ∧
      v'.disk.item? ["w", "out", "sources", "old.move"] = some (some "old".toUTF8)) ∧
    ∃ e v', Fails (writePackage c p folder true) Sample.torn e v' ∧
      (∃ fs, Part c true p Sample.torn.node (packageFolders ++ fs) ∧
        Leaves Sample.torn.disk folder fs v'.disk) ∧
      v'.disk.item? ["w", "out", "sources", "p.move"] =
        some (some "module 0xa::p \x7b\n\n\n\x7d".toUTF8) := by
  intro c p folder
  constructor
  · obtain ⟨hrecord, hrun, hlast, hstale⟩ := Sample.twice_runs
    have hms := Sample.slashFree_of_record hrecord (by decide)
    obtain ⟨y, hy⟩ := Sample.ok_of_isSome hrun
    have h := returns_of_fst hy
    exact ⟨y, _, h, ((writePackage_delivers hms).2.2 y _ h).2, hlast, hstale⟩
  · obtain ⟨hrecord, hrun, hfirst⟩ := Sample.torn_runs
    have hms := Sample.slashFree_of_record hrecord (by decide)
    obtain ⟨e, he⟩ := Sample.error_of_isNone hrun
    have h := fails_of_fst he
    obtain ⟨fs, hpart, hleaves, -⟩ := (writePackage_delivers hms).2.1 e _ h
    exact ⟨e, _, h, ⟨fs, hpart, hleaves⟩, hfirst⟩

/-- A manifest that cannot be encoded takes the place of the one from before, without its text. -/
theorem failing_package_empties_manifest :
    let c := MoveSkeleton.Sample.client
    let p : PackageId := ⟨"0xa", "P"⟩
    let v := Sample.surrogate
    (∃ record, recordOf (answersAt c v) p = .ok record ∧ ∀ m ∈ record.modules, m.SlashFree) ∧
      ∃ e v', Fails (writePackage c p Sample.written true) v e v' ∧
        v.disk.item? ["w", "out", "Move.toml"] = some (some "old".toUTF8) ∧
        v'.disk.item? ["w", "out", "Move.toml"] ≠ v.disk.item? ["w", "out", "Move.toml"] := by
  intro c p v
  obtain ⟨hrecord, hrun, hempty⟩ := Sample.surrogate_runs
  obtain ⟨record, hrecord, hmodules⟩ := Option.map_eq_some_iff.mp hrecord
  obtain ⟨e, he⟩ := Sample.error_of_isNone hrun
  have hold : v.disk.item? ["w", "out", "Move.toml"] = some (some "old".toUTF8) := by
    decide +kernel
  refine ⟨⟨record, Resolution.Sample.eq_ok hrecord, ?_⟩, e, _, fails_of_fst he, hold, ?_⟩
  · rw [hmodules]
    exact fun _ hm => absurd hm List.not_mem_nil
  · have hne : some (some ByteArray.empty) ≠ some (some "old".toUTF8) := by decide +kernel
    exact fun h => hne (hempty.symm.trans (h.trans hold))

end MoveSkeleton.Skeleton
