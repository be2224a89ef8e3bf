import Little64.Boot.Fat32Walks

/-! When the loader's walks end in time, stay inside the volume, and report a chain that is not sound. -/

namespace Little64.Boot.Walk

open LittleEndian CheckedAccess ByteFile PatchedImage LinkedChains

variable {disk : Disk} {volume : Fat32Volume} {path : List U32} {start : U32} {k n : ℕ}

section Statements

variable (disk volume)

/-- A walk looks only at sectors of the volume, and only for clusters of it. -/
def StaysInside (log : List Access) : Prop := ∀ a ∈ log, IsCluster disk volume a.cluster ∧ InVolume disk volume a.sector

/-- A chain of a file ends with a link to an end mark. -/
def fileEnds (k : ℕ) (cluster : U32) : Prop := k ≠ 0 ∧ FAT32_EOC_MIN ≤ cluster

/-- The clusters that a file's chain reaches within so many links: an end mark, or a new cluster of the volume. -/
def FileChain (start : U32) (n : ℕ) : Prop :=
  Sound (fatEntry disk volume) start fileEnds (fun k _ => k = n) (IsCluster disk volume)

/-- The chain has so many links, to clusters of the volume, none of them twice. -/
def LongEnough (start : U32) (n : ℕ) : Prop := ∀ k ≤ n,
  ¬ fileEnds k (chain (fatEntry disk volume) start k) ∧ IsCluster disk volume (chain (fatEntry disk volume) start k) ∧
    ∀ j < k, chain (fatEntry disk volume) start j ≠ chain (fatEntry disk volume) start k

/-- A read of a range over so many links: a chain that is cyclic, short or out of range is an error. -/
structure SafeRead (start : U32) (n : ℕ) (w : Walk Blob) : Prop where
  finishes : w.outcome ≠ .error .unfinished
  steps : w.log.length ≤ 2 * clusterTotal disk volume
  inside : StaysInside disk volume w.log
  reported : ¬ LongEnough disk volume start n → ∃ message, w.outcome = failHard message

variable (shortName : Blob)

/-- The clusters that the chain of the root directory reaches before the lookup is settled. -/
def RootChain : Prop := Sound (fatEntry disk volume) volume.rootCluster (fun _ c => FAT32_EOC_MIN ≤ c)
  (fun _ c => Decides disk volume shortName c) (IsCluster disk volume)

/-- The lookup is settled at a cluster that the chain has, all of them in the volume and none twice. -/
def Settled : Prop := ∃ m, Decides disk volume shortName (chain (fatEntry disk volume) volume.rootCluster m) ∧ ∀ k ≤ m,
  ¬ FAT32_EOC_MIN ≤ chain (fatEntry disk volume) volume.rootCluster k ∧
    IsCluster disk volume (chain (fatEntry disk volume) volume.rootCluster k) ∧
    ∀ j < k, chain (fatEntry disk volume) volume.rootCluster j ≠ chain (fatEntry disk volume) volume.rootCluster k

/-- A lookup in a root directory, however many rounds the loop is given beyond the number of clusters. -/
structure SafeLookup (cache : FatCache disk) : Prop where
  finishes : ∀ rounds, clusterTotal disk volume < rounds →
    (locateRootFile volume shortName rounds cache).outcome ≠ .error .unfinished
  steps : ∀ rounds, (locateRootFile volume shortName rounds cache).log.length ≤ 2 * clusterTotal disk volume
  inside : ∀ rounds, StaysInside disk volume (locateRootFile volume shortName rounds cache).log
  reported : ¬ Settled disk volume shortName → ∀ rounds, clusterTotal disk volume < rounds →
    ∃ message, (locateRootFile volume shortName rounds cache).outcome = failHard message

end Statements

section Reads

variable {w : Walk Blob} (h : Opened disk volume)

include h

lemma StaysInside.known {log : List Access} (hinside : StaysInside disk volume log) (htouches : Touches log path) :
    ∀ c ∈ path, IsCluster disk volume c ∧ Known volume c := by
  intro c hc
  obtain ⟨a, ha, rfl⟩ := htouches c hc
  exact ⟨(hinside a ha).1, known_of_isCluster h (hinside a ha).1⟩

lemma Visits.staysInside {log : List Access} (hvisits : Visits volume log path)
    (hall : ∀ c ∈ path, IsCluster disk volume c) : StaysInside disk volume log := by
  intro a ha
  obtain ⟨c, hc, rfl | rfl⟩ := hvisits.covered a ha
  · exact ⟨hall c hc, fatSector_inVolume h (hall c hc)⟩
  · exact ⟨hall c hc, dataSector_inVolume h (hall c hc)⟩

omit h in
lemma FilePath.isOpen (hwalked : FilePath disk volume start path) (hlength : path.length ≤ n + 1) :
    Open fileEnds (fun k _ => k = n) path := by
  constructor
  · rintro k x hx ⟨hk, hends⟩
    obtain ⟨i, rfl⟩ := Nat.exists_eq_succ_of_ne_zero hk
    have hlt := (List.getElem?_eq_some_iff.mp hx).1
    have hbefore : path[i]? = some path[i] := List.getElem?_eq_getElem (by omega)
    exact (turns_of_isChain hwalked.linked hbefore hx).2 hends
  · intro k x _ hlt
    omega

lemma fileChain_of_safe (hw : Walks disk volume start n path w) (hsafe : SafeRead disk volume start n w) :
    FileChain disk volume start n := by
  intro k hreached
  have hkn : k ≤ n := Nat.le_of_not_lt fun hlt => (hreached n hlt).2 rfl
  rcases hw.comesOut with ⟨⟨bytes, hbytes⟩, -⟩ | ⟨-, hcut⟩
  · right
    have hlong : LongEnough disk volume start n := by
      by_contra hshort
      obtain ⟨message, hmessage⟩ := hsafe.reported hshort
      rw [hbytes] at hmessage
      cases hmessage
    exact (hlong k hkn).2
  · have hall := hsafe.inside.known h hcut.touches
    have hplace {i : ℕ} {x : U32} (hx : path[i]? = some x) : x = chain (fatEntry disk volume) start i :=
      hw.walked.getElem?_eq_chain (fun c hc => (hall c hc).2) hx
    have hopen := (hw.walked.isOpen (n := n) (by have := hcut.short; omega)).going
    have hpos := List.length_pos_of_ne_nil hcut.nonempty
    have hend : FAT32_EOC_MIN ≤ chain (fatEntry disk volume) start path.length := by
      have hlast : path[path.length - 1]? = some path[path.length - 1] := List.getElem?_eq_getElem (by omega)
      have hsucc : path.length = path.length - 1 + 1 := by omega
      rw [hsucc, chain_succ, ← hplace hlast]
      exact hcut.ended _ (List.getLast?_eq_getElem?.trans hlast) (hall _ (List.getElem_mem _)).2
    have hkm : k ≤ path.length := Nat.le_of_not_lt fun hlt => (hreached _ hlt).1 ⟨hpos.ne', hend⟩
    rcases hkm.lt_or_eq with hlt | rfl
    · right
      have hk : path[k]? = some path[k] := List.getElem?_eq_getElem hlt
      refine ⟨hplace hk ▸ (hall _ (List.getElem_mem _)).1, fun j hj => chain_ne hend hkm ?_⟩
      have hi : path[j + (path.length - k)]? = some path[j + (path.length - k)] := List.getElem?_eq_getElem (by omega)
      rw [← hplace hi]
      exact fun hends => hopen _ _ hi ⟨by omega, hends⟩
    · exact .inl ⟨hpos.ne', hend⟩

lemma safe_of_fileChain (hw : Walks disk volume start n path w) (hsound : FileChain disk volume start n) :
    SafeRead disk volume start n w := by
  have hlength : path.length ≤ n + 1 := by
    rcases hw.comesOut with ⟨-, hlength⟩ | ⟨-, hcut⟩
    · omega
    · have hshort := hcut.short
      omega
  have hopen := hw.walked.isOpen hlength
  have hknown : ∀ c, IsCluster disk volume c → Known volume c := fun c hc => known_of_isCluster h hc
  have hall : ∀ c ∈ path, IsCluster disk volume c := fun c hc => hsound.good_of_mem hw.walked hopen hknown hc
  have hcount := length_le_clusterTotal (hsound.nodup hw.walked hopen hknown) hall
  have hsteps := hw.visits.steps
  refine ⟨?_, by omega, hw.visits.staysInside h hall, fun hshort => ?_⟩
  · rcases hw.comesOut with ⟨⟨bytes, hbytes⟩, -⟩ | ⟨⟨message, hmessage⟩, -⟩
    · rw [hbytes]
      exact fun h => by cases h
    · rw [hmessage]
      exact fun h => by cases h
  · rcases hw.comesOut with ⟨-, hfull⟩ | ⟨hmessage, -⟩
    · exfalso
      apply hshort
      intro k hk
      have hx : path[k]? = some path[k] := List.getElem?_eq_getElem (by omega)
      obtain ⟨hplace, hgood, hreached⟩ := hsound.getElem? hw.walked hopen hknown hx
      have hgoing := hopen.going k _ hx
      rw [hplace] at hgoing hgood
      exact ⟨hgoing, hgood, ((hsound k hreached).resolve_left hgoing).2⟩
    · exact hmessage

end Reads

section Lookups

variable {shortName : Blob} {rounds : ℕ} {w : Walk Stage0FileInfo} (h : Opened disk volume)

include h

omit h in
lemma Looks.isOpen (hw : Looks disk volume shortName start rounds path w) :
    Open (fun _ c => FAT32_EOC_MIN ≤ c) (fun _ c => Decides disk volume shortName c) path := by
  constructor
  · intro k x hx
    cases k with
    | zero => exact hw.going x (List.head?_eq_getElem? ▸ hx)
    | succ k =>
      have hlt := (List.getElem?_eq_some_iff.mp hx).1
      have hbefore : path[k]? = some path[k] := List.getElem?_eq_getElem (by omega)
      exact (turns_of_isChain hw.walked.linked hbefore hx).2.2
  · intro k x hx hlt
    have hnext : path[k + 1]? = some path[k + 1] := List.getElem?_eq_getElem hlt
    exact (turns_of_isChain hw.walked.linked hx hnext).2.1

lemma rootChain_of_safe {cache : FatCache disk} (hsafe : SafeLookup disk volume shortName cache) :
    RootChain disk volume shortName := by
  obtain ⟨path, hw⟩ := locateRootFileFrom_looks h shortName (clusterTotal disk volume + 1) volume.rootCluster cache
  have hfinishes := hsafe.finishes _ (Nat.lt_succ_self _)
  have hall := (hsafe.inside (clusterTotal disk volume + 1)).known h hw.touches
  have hplace {i : ℕ} {x : U32} (hx : path[i]? = some x) : x = chain (fatEntry disk volume) volume.rootCluster i :=
    hw.walked.getElem?_eq_chain (fun c hc => (hall c hc).2) hx
  have hopen := hw.isOpen
  have hgood {i : ℕ} (hi : i < path.length) :
      IsCluster disk volume (chain (fatEntry disk volume) volume.rootCluster i) ∧
        ¬ FAT32_EOC_MIN ≤ chain (fatEntry disk volume) volume.rootCluster i := by
    have hx : path[i]? = some path[i] := List.getElem?_eq_getElem hi
    rw [← hplace hx]
    exact ⟨(hall _ (List.getElem_mem _)).1, hopen.going i _ hx⟩
  intro k hreached
  rcases hw.comesOut with ⟨⟨c, hc, hdecides⟩, -⟩ | ⟨-, hempty, hended⟩ | ⟨hcut, -⟩
  · -- Settled by the last cluster: the ones before it leave the lookup open.
    rw [List.getLast?_eq_getElem?] at hc
    have hpos := (List.getElem?_eq_some_iff.mp hc).1
    rw [hplace hc] at hdecides
    have hk : k ≤ path.length - 1 := Nat.le_of_not_lt fun hlt => (hreached _ hlt).2 hdecides
    refine .inr ⟨(hgood (by omega)).1, fun j hj => chain_ne hdecides hk ?_⟩
    have hi : path[j + (path.length - 1 - k)]? = some path[j + (path.length - 1 - k)] :=
      List.getElem?_eq_getElem (by omega)
    rw [← hplace hi]
    exact hopen.followed _ _ hi (by omega)
  · -- At the end of the chain: the clusters before it are no end marks.
    have hend : FAT32_EOC_MIN ≤ chain (fatEntry disk volume) volume.rootCluster path.length := by
      rcases Nat.eq_zero_or_pos path.length with hzero | hpos
      · rw [hzero]
        exact hempty (List.eq_nil_of_length_eq_zero hzero)
      · have hlast : path[path.length - 1]? = some path[path.length - 1] := List.getElem?_eq_getElem (by omega)
        have hsucc : path.length = path.length - 1 + 1 := by omega
        rw [hsucc, chain_succ, ← hplace hlast]
        exact (hended _ (List.getLast?_eq_getElem?.trans hlast)).2 (hall _ (List.getElem_mem _)).2
    have hk : k ≤ path.length := Nat.le_of_not_lt fun hlt => (hreached _ hlt).1 hend
    rcases hk.lt_or_eq with hlt | rfl
    · exact .inr ⟨(hgood hlt).1, fun j hj => chain_ne hend hk (hgood (by omega)).2⟩
    · exact .inl hend
  · exact absurd hcut hfinishes

lemma safeLookup_of_rootChain (hsound : RootChain disk volume shortName) (cache : FatCache disk) :
    SafeLookup disk volume shortName cache := by
  have hknown : ∀ c, IsCluster disk volume c → Known volume c := fun c hc => known_of_isCluster h hc
  have hlooks (rounds : ℕ) : ∃ path, Looks disk volume shortName volume.rootCluster rounds path
      (locateRootFile volume shortName rounds cache) ∧ (∀ c ∈ path, IsCluster disk volume c) ∧
        path.length ≤ clusterTotal disk volume := by
    obtain ⟨path, hw⟩ := locateRootFileFrom_looks h shortName rounds volume.rootCluster cache
    have hall : ∀ c ∈ path, IsCluster disk volume c := fun c hc => hsound.good_of_mem hw.walked hw.isOpen hknown hc
    exact ⟨path, hw, hall, length_le_clusterTotal (hsound.nodup hw.walked hw.isOpen hknown) hall⟩
  constructor
  · intro rounds hrounds
    obtain ⟨path, hw, -, hcount⟩ := hlooks rounds
    rcases hw.comesOut with ⟨-, hfinishes⟩ | ⟨⟨message, hmessage⟩, -⟩ | ⟨-, hlength⟩
    · exact hfinishes
    · rw [hmessage]
      exact fun h => by cases h
    · omega
  · intro rounds
    obtain ⟨path, hw, -, hcount⟩ := hlooks rounds
    have hsteps := hw.visits.steps
    omega
  · intro rounds
    obtain ⟨path, hw, hall, -⟩ := hlooks rounds
    exact hw.visits.staysInside h hall
  · intro hopen rounds hrounds
    obtain ⟨path, hw, -, hcount⟩ := hlooks rounds
    rcases hw.comesOut with ⟨⟨c, hc, hdecides⟩, -⟩ | ⟨hmessage, -⟩ | ⟨-, hlength⟩
    · exfalso
      apply hopen
      have hplace {k : ℕ} {x : U32} (hx : path[k]? = some x) := hsound.getElem? hw.walked hw.isOpen hknown hx
      rw [List.getLast?_eq_getElem?] at hc
      have hpos := (List.getElem?_eq_some_iff.mp hc).1
      refine ⟨path.length - 1, (hplace hc).1 ▸ hdecides, fun k hk => ?_⟩
      have hx : path[k]? = some path[k] := List.getElem?_eq_getElem (by omega)
      obtain ⟨heq, hgood, hreached⟩ := hplace hx
      have hgoing := hw.isOpen.going k _ hx
      rw [heq] at hgoing hgood
      exact ⟨hgoing, hgood, ((hsound k hreached).resolve_left hgoing).2⟩
    · exact hmessage
    · omega

end Lookups

/-- The walks of the loader end in time, stay inside the volume and report a bad chain exactly if the clusters that they
reach are end marks or new clusters of the volume. -/
theorem fat32_walks_safe_iff (h : loadFat32Volume disk = .ok volume) (cache : FatCache disk) :
    (∀ shortName, SafeLookup disk volume shortName cache ↔ RootChain disk volume shortName) ∧
      ∀ file offset size,
        (SafeRead disk volume file.firstCluster (linksOf offset.toNat size.toNat)
            (readFileRangeToBuffer volume file offset size cache) ↔
          FileChain disk volume file.firstCluster (linksOf offset.toNat size.toNat)) ∧
        (SafeRead disk volume file.firstCluster (linksOf offset.toNat size.toNat)
            (readFileRangeToPhysical volume file offset size cache) ↔
          FileChain disk volume file.firstCluster (linksOf offset.toNat size.toNat)) := by
  have hopened := opened_of_load h
  refine ⟨fun shortName => ⟨fun hsafe => rootChain_of_safe hopened hsafe, fun hsound =>
    safeLookup_of_rootChain hopened hsound cache⟩, fun file offset size => ⟨?_, ?_⟩⟩
  · obtain ⟨path, hw⟩ := readFileRange_walks readsRuns_toBuffer "FAT32 file range exceeds cluster chain"
      "FAT32 file range terminated early" file offset size cache
    exact ⟨fileChain_of_safe hopened hw, safe_of_fileChain hopened hw⟩
  · obtain ⟨path, hw⟩ := readFileRange_walks readsRuns_toPhysical "FAT32 physical read exceeds cluster chain"
      "FAT32 physical read terminated early" file offset size cache
    exact ⟨fileChain_of_safe hopened hw, safe_of_fileChain hopened hw⟩

section Samples

/-- A card with a volume of three clusters. -/
def sampleDisk (table directory : Blob) : Disk := fun lba =>
  if lba = 0 then patched (List.replicate 512 0) [⟨450, [0x0C]⟩, ⟨454, [1, 0, 0, 0]⟩, ⟨510, [0x55, 0xAA]⟩]
  else if lba = 1 then
    patched (List.replicate 512 0) [⟨11, [0, 2, 1, 1, 0, 2]⟩, ⟨32, [6, 0, 0, 0, 1, 0, 0, 0]⟩, ⟨44, [2, 0, 0, 0]⟩,
      ⟨510, [0x55, 0xAA]⟩]
  else if lba = 2 ∨ lba = 3 then table
  else directory

def sampleVolume : Fat32Volume := ⟨1, 1, 2, 1, 4, 2⟩

/-- A directory whose cluster has the kernel as its first entry. -/
def kernelDisk : Disk :=
  sampleDisk (List.replicate 512 0xFF)
    (patched (List.replicate 512 0) [⟨0, KERNEL_NAME⟩, ⟨26, [3, 0]⟩, ⟨28, [0, 2, 0, 0]⟩])

/-- A directory of deleted entries, whose cluster links to itself. -/
def cyclicDisk : Disk := sampleDisk (patched (List.replicate 512 0) [⟨8, [2, 0, 0, 0]⟩]) (List.replicate 512 0xE5)

end Samples

theorem fat32_walks_safe_sample : loadFat32Volume kernelDisk = .ok sampleVolume ∧
    SafeLookup kernelDisk sampleVolume KERNEL_NAME (FatCache.invalid kernelDisk) ∧
    SafeRead kernelDisk sampleVolume 3 0
      (readFileRangeToBuffer sampleVolume ⟨3, 512⟩ 0 512 (FatCache.invalid kernelDisk)) := by
  have hload : loadFat32Volume kernelDisk = .ok sampleVolume := by decide +kernel
  obtain ⟨hlookup, hread⟩ := fat32_walks_safe_iff hload (FatCache.invalid kernelDisk)
  refine ⟨hload, (hlookup KERNEL_NAME).mpr fun k hreached => ?_, (hread ⟨3, 512⟩ 0 512).1.mpr fun k hreached => ?_⟩
  · have hk : k = 0 := by
      by_contra hne
      apply (hreached 0 (Nat.pos_of_ne_zero hne)).2
      change findInSector KERNEL_NAME (kernelDisk 4) 16 0 ≠ .ok none
      decide +kernel
    subst hk
    exact .inr ⟨by decide +kernel, fun j hj => by cases hj⟩
  · have hk : k = 0 := by
      by_contra hne
      exact (hreached 0 (Nat.pos_of_ne_zero hne)).2 rfl
    subst hk
    exact .inr ⟨by decide +kernel, fun j hj => by cases hj⟩

/-- The lookup goes round in a root directory whose only cluster links to itself. -/
theorem cyclic_directory_not_safe : loadFat32Volume cyclicDisk = .ok sampleVolume ∧
    ¬ SafeLookup cyclicDisk sampleVolume KERNEL_NAME (FatCache.invalid cyclicDisk) := by
  have hload : loadFat32Volume cyclicDisk = .ok sampleVolume := by decide +kernel
  refine ⟨hload, fun hsafe => ?_⟩
  have hsound := rootChain_of_safe (opened_of_load hload) hsafe
  have hself : chain (fatEntry cyclicDisk sampleVolume) 2 1 = 2 := by
    change fatEntry cyclicDisk sampleVolume 2 = 2
    decide +kernel
  have hreached : Reached (fatEntry cyclicDisk sampleVolume) 2 (fun _ c => FAT32_EOC_MIN ≤ c)
      (fun _ c => Decides cyclicDisk sampleVolume KERNEL_NAME c) 1 := by
    intro j hj
    obtain rfl := Nat.lt_one_iff.mp hj
    refine ⟨by decide +kernel, not_not_intro ?_⟩
    change findInSector KERNEL_NAME (cyclicDisk 4) 16 0 = .ok none
    decide +kernel
  rcases hsound 1 hreached with hend | hnew
  · change FAT32_EOC_MIN ≤ chain (fatEntry cyclicDisk sampleVolume) 2 1 at hend
    rw [hself] at hend
    exact absurd hend (by decide)
  · exact hnew.2 0 Nat.zero_lt_one hself.symm

end Little64.Boot.Walk
