import MoveSkeleton.Proofs.Skeleton.Progress

/-! A run is complete or fails: it returns if and only if all that is reached is complete, and then
the skeleton is all that stands in the folder of the root package. -/
namespace MoveSkeleton.Skeleton

open Resolution Activity

variable {c : Client} {w : World} {root : PackageId} {target folder q : Path} {l : Location}
  {names : List Text}

/-- A record is found for each package that is reached, and the interfaces of its modules are
read. -/
def Readable (c : Client) (w : World) (root : PackageId) : Prop :=
  ∀ p, Reached (answersAt c w) root p → ∃ record, recordOf (answersAt c w) p = .ok record ∧
    ∀ m ∈ record.modules, ∃ interface, (c.readInterface p.account m w).1 = .ok interface

theorem PackageComplete.readable {isRoot : Bool} {p : PackageId}
    (h : PackageComplete c w isRoot p folder) :
    ∃ record, recordOf (answersAt c w) p = .ok record ∧
      ∀ m ∈ record.modules, ∃ interface, (c.readInterface p.account m w).1 = .ok interface := by
  obtain ⟨record, hrec, hmodules, -⟩ := h
  refine ⟨record, hrec, fun m hm => ?_⟩
  obtain ⟨interface, hi, -⟩ := hmodules m hm
  exact ⟨interface, hi⟩

theorem Complete.readable (h : Complete c w root folder) : Readable c w root := by
  intro p hp
  by_cases hroot : p = root
  · exact hroot ▸ h.ofRoot.readable
  · exact (h.ofReached p hroot hp).readable

/-- No failure is passed over: a run returns if and only if all that is reached can be read and
written. What it returns then lists all that is reached, and what stands in the folder of the root
package is the skeleton and nothing else. -/
theorem create_returns_iff_complete (hnode : w.node.Steady) (hnamed : Named c w root)
    (hfits : Fits c w root (target.below [root.name]))
    (hway : w.disk.Admits target root.name q l names) :
    ((∃ s w', Returns (create c root target) w s w') ↔
        Complete c w root (target.below [root.name])) ∧
      ∀ s w', Returns (create c root target) w s w' →
        s.folder = target.below [root.name] ∧ Lists c w root s.dependencies ∧
          ∃ m, w'.disk.At s.folder m ∧ ∀ k e, w'.disk.item? (m ++ k) = some e ↔
            (k, e) ∈ layout c w root (s.dependencies.map (·.2)) := by
  refine ⟨⟨?_, fun hcomplete => create_returns hnode hnamed hcomplete hfits hway⟩, ?_⟩
  · rintro ⟨s, w', h⟩
    obtain ⟨hs, -, hcomplete, -⟩ := stands_of_create hnode hnamed hway.direct h
    exact hs ▸ hcomplete
  · intro s w' h
    obtain ⟨hs, hlists, -, m, hstands⟩ := stands_of_create hnode hnamed hway.direct h
    exact ⟨hs, hlists, m, hstands.way, hstands.tree⟩

/-- For packages with and without modules, two of which need each other. -/
theorem create_returns_iff_complete_out :
    let c := MoveSkeleton.Sample.client
    let w := Sample.worldOn (Disk.blank ["w"])
    let root := Sample.rootPackage
    let target := Path.ofText "out"
    w.node.Steady ∧ Named c w root ∧ Fits c w root (target.below [root.name]) ∧
      w.disk.Admits target root.name ⟨.here, []⟩ ["w"] ["out"] ∧
        ∃ s w', Returns (create c root target) w s w' ∧
          s.folder = target.below [root.name] ∧ Lists c w root s.dependencies ∧
            ∃ m, w'.disk.At s.folder m ∧ ∀ k e, w'.disk.item? (m ++ k) = some e ↔
              (k, e) ∈ layout c w root (s.dependencies.map (·.2)) := by
  intro c w root target
  have hnode : w.node.Steady := MoveSkeleton.Sample.node_steady
  have hfits : Fits c w root (target.below [root.name]) := Sample.fits (by decide)
  have hway : w.disk.Admits target root.name ⟨.here, []⟩ ["w"] ["out"] := Sample.admits_out
  obtain ⟨hreturns, hstands⟩ := create_returns_iff_complete hnode Sample.named hfits hway
  obtain ⟨s, w', h⟩ := hreturns.mpr (Sample.complete (by decide))
  exact ⟨hnode, Sample.named, hfits, hway, s, w', h, hstands s w' h⟩

namespace Sample

open MoveSkeleton.Sample Resolution.Sample

/-- A package without dependencies, with a module whose name cannot be encoded. -/
def garbled : World where
  node := [(client.resourcesUrl "0xa", [answer (resources [package "P" [] ["p"]])]),
    (client.interfaceUrl "0xa" "p", [answer (interface "0xa" ⟨[.ofNat 0xd800]⟩)])]
  disk := Disk.blank ["w"]

theorem garbled_steady : garbled.node.Steady :=
  Node.steady_of_length_le_one (by decide +kernel)

theorem garbled_record : recordOf (answersAt client garbled) rootPackage =
    .ok { name := "P", dependencies := [], modules := ["p"] } :=
  eq_ok (by decide +kernel)

theorem eq_root_of_reached {p : PackageId} (h : Reached (answersAt client garbled) rootPackage p) :
    p = rootPackage := by
  refine List.mem_singleton.mp
    (mem_of_reflTransGen_leads (List.mem_singleton.mpr rfl) (fun q hq d hd _ => ?_) h)
  rw [List.mem_singleton.mp hq, edges_of_record garbled_record] at hd
  cases hd

theorem garbled_named : Named client garbled rootPackage where
  rootName := by decide
  plain p hp h := absurd (eq_root_of_reached h) hp
  slashFree p hp h := absurd (eq_root_of_reached h) hp
  modules p h record hr := by
    rw [eq_root_of_reached h] at hr
    obtain rfl := Except.ok.inj (garbled_record.symm.trans hr)
    unfold Text.SlashFree
    decide

theorem garbled_fits : Fits client garbled rootPackage ((Path.ofText "out").below ["P"]) where
  ofRoot := by
    rw [packageFiles, garbled_record]
    decide
  ofReached p hp h := absurd (eq_root_of_reached h) hp

theorem garbled_readable : Readable client garbled rootPackage := by
  intro p hp
  rw [eq_root_of_reached hp]
  have hp : ((client.readInterface "0xa" "p" garbled).1.toOption.isSome) = true := by
    decide +kernel
  exact ⟨_, garbled_record, List.forall_mem_singleton.mpr (ok_of_isSome hp)⟩

theorem garbled_incomplete {folder : Path} : ¬ Complete client garbled rootPackage folder := by
  rintro ⟨⟨record, hrec, hmodules, -⟩, -⟩
  obtain rfl := Except.ok.inj (garbled_record.symm.trans hrec)
  obtain ⟨i, hi, -, content, hc⟩ := hmodules "p" (by simp)
  have hfault : ((client.readInterface "0xa" "p" garbled).1.toOption.any fun i =>
      i.source.toUtf8.toOption.isSome) = false := by decide +kernel
  have hi : (client.readInterface "0xa" "p" garbled).1 = .ok i := hi
  rw [hi] at hfault
  simp [Except.toOption, hc] at hfault

/-- A disk with a folder in the root package's own. -/
def nested : Disk :=
  { root := Tree.empty.put ["w", "P", "x"] .empty, here := ["w"] }

/-- The folder that the way leads through is removed together with the root package's, and then
there is no way to it any more. -/
theorem nested_fails : ¬ ∃ s w', Returns (create client rootPackage roundabout)
    (worldOn nested) s w' := by
  rintro ⟨s, w', h⟩
  obtain ⟨hs, -, u, d, hclear, -⟩ := gains_of_create node_steady named h
  have hfault : ((clear (roundabout.below [rootPackage.name])).run.run
      (worldOn nested)).1.toOption.isSome = false := rfl
  rw [← hs, show _ = _ from hclear] at hfault
  cases hfault

/-- The old source is in no dependency's folder, but stands in one. -/
theorem stale_not_layout : ∃ s w', Returns (create client rootPackage roundabout)
    (worldOn stale) s w' ∧ ¬ ∃ m, w'.disk.At s.folder m ∧ ∀ k e, w'.disk.item? (m ++ k) = some e ↔
      (k, e) ∈ layout client (worldOn stale) rootPackage (s.dependencies.map (·.2)) := by
  obtain ⟨s, w', h, -, hat, hlists, hstays⟩ := stale_stays
  refine ⟨s, w', h, ?_⟩
  rintro ⟨m, hm, htree⟩
  obtain rfl : m = ["w", "P"] := congrArg Spot.location (hm.unique hat)
  obtain ⟨e, he⟩ := Option.isSome_iff_exists.mp hstays
  obtain ⟨d, hd, htarget⟩ := hlists.mem (p := ⟨"0xb", "Q"⟩) (by decide) reached_q
  obtain rfl : d = ⟨"0xb", "Q"⟩ := target_inj htarget
  have hmem := (htree ("deps" :: "Q_b" :: oldSource) e).mp he
  exact oldSource_not_mem ((mem_layout_dependency (hlists.folder_inj named) hd).mp hmem)

end Sample

/-- Texts that cannot be encoded, a way through the folder that is to be removed and one that leads
up where nothing is: what is read is not all that decides a run. -/
theorem readable_without_skeleton :
    let c := MoveSkeleton.Sample.client
    let root := Sample.rootPackage
    (let w := Sample.garbled
      let target := Path.ofText "out"
      w.node.Steady ∧ Named c w root ∧ Fits c w root (target.below [root.name]) ∧
        w.disk.Admits target root.name ⟨.here, []⟩ ["w"] ["out"] ∧ Readable c w root ∧
          ¬ ∃ s w', Returns (create c root target) w s w') ∧
    (let w := Sample.worldOn Sample.nested
      let target := Sample.roundabout
      w.node.Steady ∧ Named c w root ∧ Fits c w root (target.below [root.name]) ∧
        w.disk.isFolder? (target.below [root.name]) = .ok true ∧
          w.disk.isFolder? target = .ok true ∧ Readable c w root ∧
            ¬ ∃ s w', Returns (create c root target) w s w') ∧
    let w := Sample.worldOn Sample.stale
    let target := Sample.roundabout
    w.node.Steady ∧ Named c w root ∧ Fits c w root (target.below [root.name]) ∧
      w.disk.exists? (target.below [root.name]) = .ok false ∧ Readable c w root ∧
        ∃ s w', Returns (create c root target) w s w' ∧
          ¬ ∃ m, w'.disk.At s.folder m ∧ ∀ k e, w'.disk.item? (m ++ k) = some e ↔
            (k, e) ∈ layout c w root (s.dependencies.map (·.2)) := by
  have hfits : ∀ d, Fits MoveSkeleton.Sample.client (Sample.worldOn d) Sample.rootPackage
      (Sample.roundabout.below [Sample.rootPackage.name]) := fun d => Sample.fits (by decide)
  have hf : DiskFault.ofPath? Sample.roundabout = none := by decide
  have hreadable : ∀ d, Readable MoveSkeleton.Sample.client (Sample.worldOn d)
      Sample.rootPackage := fun d =>
    (Sample.complete hf).readable
  refine ⟨?_, ?_, ?_⟩
  · refine ⟨Sample.garbled_steady, Sample.garbled_named, Sample.garbled_fits, Sample.admits_out,
      Sample.garbled_readable, ?_⟩
    rintro ⟨s, w', h⟩
    obtain ⟨-, -, hcomplete, -⟩ := stands_of_create Sample.garbled_steady Sample.garbled_named
      Sample.admits_out.direct h
    exact Sample.garbled_incomplete hcomplete
  · exact ⟨MoveSkeleton.Sample.node_steady, Sample.named, hfits _, rfl, rfl, hreadable _,
      Sample.nested_fails⟩
  · exact ⟨MoveSkeleton.Sample.node_steady, Sample.named, hfits _, rfl, hreadable _,
      Sample.stale_not_layout⟩

end MoveSkeleton.Skeleton
