import TokenMint.Proofs.Store.Place
import TokenMint.Proofs.Store.Statement

/-! # Opening a file again

Where a location has led to a file, it leads to the same file again: the directories on the way are
there, and all that the engine passes through is as it was.  There is one exception.  A way that
passes through the place of the file itself can be followed as long as nothing is there, so it may
lead to a file once and never again; locations that do not have this happen to them persist. -/

namespace TokenMint.Store

/-- A database opened again as it was left, for writing. -/
def Database.revived (db : Database) : Database := { db with readOnly := false, closed := false }

namespace Disk

/-! ## Files -/

/-- Whatever cannot be passed through stays so, and the rest as well. -/
theorem filePlace?_congr {d d' : Disk} (hhome : d'.home = d.home)
    (hnode : ∀ p, (d'.node? p).map Node.isDirectory = (d.node? p).map Node.isDirectory)
    (path : String) : d'.filePlace? path = d.filePlace? path := by
  have hfollow : d'.follow = d.follow := by
    funext p name
    have hp := hnode p
    unfold follow
    generalize d'.node? p = x, d.node? p = y at hp
    rcases x with _ | (_ | _ | _) <;> rcases y with _ | (_ | _ | _) <;> first | rfl | cases hp
  rw [filePlace?, filePlace?, origin, origin, hfollow, hhome]

/-- A file is opened where it is, or made in a directory that is there. -/
theorem openFile_eq_ok {d d' : Disk} {access : Access} {path : String} {p : Place} {n : Node}
    (h : d.openFile access path = (.ok (p, n), d')) :
    d.filePlace? path = some p ∧
      (d.node? p = some n ∧ d' = d ∨
        d.node? p = none ∧ n = .file .blank ∧ d' = d.put p (.file .blank)) := by
  unfold openFile at h
  split at h
  · cases h
  · rename_i q hq
    split at h
    · cases h
    · rename_i m _ hm
      cases h
      exact ⟨hq, .inl ⟨hm, rfl⟩⟩
    · rename_i hnone
      split at h
      · cases h
        exact ⟨hq, .inr ⟨hnone, rfl, rfl⟩⟩
      · cases h

/-- The tables that a file lacks are made, unless something stands in the way. -/
theorem completedFile_eq_ok {a : Address} {p : Place} {db database : Database}
    (h : completedFile a p db = .ok database) :
    ¬ (a.fileSystem = some Address.dotfileSystem ∧ ¬ a.immutable ∧ ¬ hasRoom p 5) ∧
      database = { db with missing := [], readOnly := a.isReadOnly, closed := false } := by
  unfold completedFile at h
  split at h
  · cases h
  · rename_i hlock
    split at h
    · cases h
    · refine ⟨hlock, ?_⟩
      obtain ⟨p, hm, hp⟩ := bind_eq_ok.mp h
      cases hp
      unfold Database.migrate at hm
      split at hm
      · obtain ⟨_, -, hm⟩ := bind_eq_ok.mp hm
        cases hm
        rfl
      · obtain ⟨_, -, hm⟩ := bind_eq_ok.mp hm
        cases hm
        rfl

/-- A file with all its tables can always be opened again. -/
theorem completedFile_of_complete {a : Address} {p : Place} {db : Database}
    (hlock : ¬ (a.fileSystem = some Address.dotfileSystem ∧ ¬ a.immutable ∧ ¬ hasRoom p 5))
    (hwritable : a.isReadOnly = false) (hdb : db.missing = []) :
    completedFile a p db = .ok db.revived := by
  rw [completedFile, if_neg hlock, if_neg (by simp [hdb])]
  simp [completed, Database.migrate, Database.reopen, Database.require, Database.revived, hdb,
    hwritable, bind, Except.bind]
  rfl

/-! ## Rows -/

/-- No row of any table on the disk has changed. -/
structure SameRows (d d' : Disk) : Prop where
  plain : d'.Plain
  tables : ∀ q, d'.tablesAt q = d.tablesAt q

namespace SameRows

variable {d d' d'' : Disk}

theorem refl (hd : d.Plain) : SameRows d d := ⟨hd, fun _ ↦ rfl⟩

theorem trans (h : SameRows d d') (h' : SameRows d' d'') : SameRows d d'' :=
  ⟨h'.plain, fun q ↦ (h'.tables q).trans (h.tables q)⟩

theorem put (hd : d.Plain) {p : Place} {db : Database} (h : db.tables = d.tablesAt p) :
    SameRows d (d.put p (.file db)) :=
  ⟨plain_put hd p _, tablesAt_put hd h⟩

theorem prepare (hd : d.Plain) (l : Location) : SameRows d (d.prepare l).2 :=
  ⟨prepare_plain hd l, tablesAt_prepare hd l⟩

theorem openFile (hd : d.Plain) {access : Access} {path : String}
    {r : Except EngineError (Place × Node)} (h : d.openFile access path = (r, d')) :
    SameRows d d' ∧ ∀ p n, r = .ok (p, n) → d'.node? p = some n := by
  unfold Disk.openFile at h
  split at h
  · cases h
    exact ⟨.refl hd, nofun⟩
  · rename_i p _
    split at h
    · cases h
      exact ⟨.refl hd, nofun⟩
    · rename_i n _ hn
      cases h
      refine ⟨.refl hd, ?_⟩
      rintro _ _ ⟨⟩
      exact hn
    · rename_i hnone
      split at h
      · cases h
        refine ⟨.put hd ?_, ?_⟩
        · rw [tablesAt, hnone]
          rfl
        · rintro _ _ ⟨⟩
          exact node?_put d p _
      · cases h
        exact ⟨.refl hd, nofun⟩

theorem openNode (hd : d.Plain) (a : Address) {p : Place} {n : Node} (hn : d.node? p = some n) :
    SameRows d (d.openNode a p n).2 := by
  unfold Disk.openNode
  split
  · rename_i before
    split
    · exact .refl hd
    · rename_i database hcompleted
      split
      · exact .refl hd
      · refine .put hd ?_
        rw [(completedFile_eq_ok hcompleted).2, tablesAt_of_file hn]
  · exact .refl hd

/-- To open a database, with all that this makes on the disk, changes no row. -/
theorem openLocation (hd : d.Plain) (l : Location) : SameRows d (d.openLocation l).2 := by
  have hprepare := prepare hd l
  unfold Disk.openLocation
  split
  · rename_i hp
    rw [hp] at hprepare
    exact hprepare
  · rename_i d₀ hp
    rw [hp] at hprepare
    unfold openConnection
    split
    · exact hprepare
    · split
      · exact hprepare
      · rename_i a _
        unfold openAddress
        split
        · exact hprepare
        · split
          · rename_i hfile
            exact hprepare.trans (openFile hprepare.plain hfile).1
          · rename_i p n d₁ hfile
            obtain ⟨hsame, hthere⟩ := openFile hprepare.plain hfile
            exact (hprepare.trans hsame).trans (openNode hsame.plain a (hthere p n rfl))

end SameRows

/-! ## Locations -/

/-- What an opening has found, if it has opened a file to write to. -/
theorem openLocation_eq_ok {d d' : Disk} {l : Location} {db : Database} {p : Place}
    (h : d.openLocation l = (.ok ⟨db, some p⟩, d')) :
    ∃ d₀ d₁ s a path before, d.prepare l = (.ok (), d₀) ∧ Source.parse l.connection = .ok s ∧
      Address.ofSource s = .ok a ∧ a.file? = some path ∧
        d₀.openFile a.access path = (.ok (p, .file before), d₁) ∧
          completedFile a p before = .ok db ∧ a.isReadOnly = false ∧ d' = d₁.put p (.file db) := by
  unfold openLocation at h
  split at h
  · cases h
  · rename_i d₀ hprepare
    unfold openConnection at h
    split at h
    · cases h
    · rename_i s hs
      split at h
      · cases h
      · rename_i a ha
        unfold openAddress at h
        split at h
        · -- what is in no file has no place
          exfalso
          have hplace := congrArg Prod.fst h
          simp only [openTransient] at hplace
          split at hplace
          · cases hplace
          · rw [mapError_eq_ok] at hplace
            cases hc : completed a.isReadOnly .blank <;> rw [hc] at hplace <;> cases hplace
        · rename_i path hpath
          split at h
          · cases h
          · rename_i q n d₁ hfile
            have hnode : d₁.openNode a q n = (.ok ⟨db, some p⟩, d') := by
              obtain ⟨hopened, hd'⟩ := Prod.mk.inj h
              exact Prod.ext (mapError_eq_ok.mp hopened) hd'
            unfold openNode at hnode
            split at hnode
            · rename_i before
              split at hnode
              · cases hnode
              · rename_i database hcompleted
                split at hnode
                · cases hnode
                · rename_i hwritable
                  cases hnode
                  exact ⟨d₀, d₁, s, a, path, before, hprepare, hs, ha, hpath, hfile, hcompleted,
                    by simpa using hwritable, rfl⟩
            · cases hnode

/-- A database that has been opened to write to is the one in the file, or a new one. -/
theorem opened_database {d d' : Disk} (hd : d.Plain) {l : Location} {db : Database} {p : Place}
    (h : d.openLocation l = (.ok ⟨db, some p⟩, d')) :
    ∃ before, (d.node? p = some (.file before) ∨ before = .blank) ∧
      db = { before with missing := [], readOnly := false, closed := false } := by
  obtain ⟨d₀, d₁, _, a, _, before, hprepare, -, -, -, hopen, hcompleted, hwritable, -⟩ :=
    openLocation_eq_ok h
  refine ⟨before, ?_, by rw [(completedFile_eq_ok hcompleted).2, hwritable]⟩
  obtain ⟨-, ⟨hthere, -⟩ | ⟨-, hblank, -⟩⟩ := openFile_eq_ok hopen
  · refine .inl (file_of_prepare hd l ?_)
    rw [hprepare]
    exact hthere
  · cases hblank
    exact .inr rfl

/-- Once a file has been opened it is there, and the directory that its location needs as well, for
whoever leaves directories alone. -/
theorem opened_ready {d d' : Disk} (hd : d.Plain) {l : Location} {db : Database} {p : Place}
    (h : d.openLocation l = (.ok ⟨db, some p⟩, d')) :
    d'.Plain ∧ d'.node? p = some (.file db) ∧ ∀ d'' : Disk, d''.home = d'.home →
      (∀ q, d'.node? q = some .directory → d''.node? q = some .directory) →
        d''.prepare l = (.ok (), d'') := by
  obtain ⟨d₀, d₁, _, _, _, _, hprepare, -, -, -, hopen, -, -, rfl⟩ := openLocation_eq_ok h
  have hplain : d₀.Plain := by simpa [hprepare] using prepare_plain hd l
  have hhome : d₀.home = d.home := by simpa [hprepare] using prepare_home d l
  -- the file is made where nothing was, so that no directory gives way to it
  have hopened : d₁.Plain ∧ d₁.home = d₀.home ∧ d₀.node? p ≠ some .directory ∧
      ∀ q ≠ p, d₀.node? q = some .directory → d₁.node? q = some .directory := by
    obtain ⟨-, ⟨hthere, rfl⟩ | ⟨hnone, -, rfl⟩⟩ := openFile_eq_ok hopen
    · exact ⟨hplain, rfl, by simp [hthere], fun _ _ hq ↦ hq⟩
    · exact ⟨plain_put hplain p _, rfl, by simp [hnone],
        fun q hne hq ↦ node?_put_of_some hplain hne hq _⟩
  obtain ⟨hplain₁, hhome₁, hnode, hdir₁⟩ := hopened
  refine ⟨plain_put hplain₁ p _, node?_put d₁ p _, fun d'' hhome'' hdir ↦ ?_⟩
  refine prepare_again hd hprepare (hhome''.trans (hhome₁.trans hhome)) fun q hq ↦ hdir q ?_
  have hne : q ≠ p := by
    rintro rfl
    exact hnode hq
  exact node?_put_of_some hplain₁ hne (hdir₁ q hne hq) _

/-- A location leads to a file of this disk that may be written to, and the directory that it needs
is there, for whoever leaves directories alone. -/
structure Leads (d : Disk) (l : Location) (p : Place) : Prop where
  plain : d.Plain
  file : ∃ db, d.node? p = some (.file db)
  prepare : ∀ d' : Disk, d'.home = d.home →
    (∀ q, d.node? q = some .directory → d'.node? q = some .directory) →
      d'.prepare l = (.ok (), d')
  address : ∃ s a path, Source.parse l.connection = .ok s ∧ Address.ofSource s = .ok a ∧
    a.file? = some path ∧ d.filePlace? path = some p ∧ a.isReadOnly = false ∧
      ¬ (a.fileSystem = some Address.dotfileSystem ∧ ¬ a.immutable ∧ ¬ hasRoom p 5)

/-- Another database in the file changes nothing else. -/
theorem node?_put_file {d : Disk} (hd : d.Plain) {p : Place} {before : Database}
    (h : d.node? p = some (.file before)) (db : Database) {q : Place} (hq : q ≠ p) :
    (d.put p (.file db)).node? q = d.node? q := by
  rw [node?_put_eq hd, if_neg hq]
  split
  · rename_i hpre
    have hthere : d.node? q ≠ none := node?_ne_none_of_prefix hpre (by simp [h])
    obtain ⟨n, hn⟩ := Option.ne_none_iff_exists'.mp hthere
    rw [hn]
    rfl
  · rfl

theorem filePlace?_put_file {d : Disk} (hd : d.Plain) {p : Place} {before : Database}
    (h : d.node? p = some (.file before)) (db : Database) (path : String) :
    (d.put p (.file db)).filePlace? path = d.filePlace? path := by
  refine @filePlace?_congr d (d.put p _) rfl (fun q ↦ ?_) path
  by_cases hq : q = p
  · rw [hq, node?_put, h]
    rfl
  · rw [node?_put_file hd h db hq]

namespace Leads

variable {d d' : Disk} {l : Location} {p : Place} {db : Database}

/-- A location goes on leading to the file, whatever database is put into it. -/
theorem put (h : d.Leads l p) (db : Database) : (d.put p (.file db)).Leads l p := by
  obtain ⟨before, hbefore⟩ := h.file
  obtain ⟨s, a, path, hs, ha, hpath, hplace, husable⟩ := h.address
  refine ⟨plain_put h.plain p _, ⟨db, node?_put d p _⟩, fun d' hhome hdir ↦ ?_,
    s, a, path, hs, ha, hpath, ?_, husable⟩
  · refine h.prepare d' hhome fun q hq ↦ hdir q ?_
    refine node?_put_of_some h.plain ?_ hq _
    rintro rfl
    rw [hbefore] at hq
    cases hq
  · rw [filePlace?_put_file h.plain hbefore, hplace]

/-- Opening a location that leads to a file gives the database in this file. -/
theorem openLocation (h : d.Leads l p) (hfile : d.node? p = some (.file db))
    (hdb : db.missing = []) :
    d.openLocation l = (.ok ⟨db.revived, some p⟩, d.put p (.file db.revived)) := by
  obtain ⟨s, a, path, hs, ha, hpath, hplace, hwritable, hlock⟩ := h.address
  have hopen : d.openFile a.access path = (.ok (p, .file db), d) := by
    simp only [openFile, hplace, hfile]
  simp only [Disk.openLocation, h.prepare d rfl fun _ hq ↦ hq, openConnection, hs, ha, openAddress,
    hpath, hopen, openNode, completedFile_of_complete hlock hwritable hdb, hwritable]
  rfl

/-- Once a location has been opened it leads to its file, if the engine finds its way again. -/
theorem of_filePlace? (hd : d.Plain) (h : d.openLocation l = (.ok ⟨db, some p⟩, d'))
    (hagain : ∀ s a path, Source.parse l.connection = .ok s → Address.ofSource s = .ok a →
      a.file? = some path → d'.filePlace? path = some p) : d'.Leads l p := by
  obtain ⟨hplain, hfile, hprepare⟩ := opened_ready hd h
  obtain ⟨_, _, s, a, path, _, -, hs, ha, hpath, -, hcompleted, hwritable, -⟩ :=
    openLocation_eq_ok h
  obtain ⟨hlock, -⟩ := completedFile_eq_ok hcompleted
  exact ⟨hplain, ⟨db, hfile⟩, hprepare, s, a, path, hs, ha, hpath, hagain s a path hs ha hpath,
    hwritable, hlock⟩

/-- After a location has led to a file that was there, it leads to it. -/
theorem of_file (hd : d.Plain) (h : d.openLocation l = (.ok ⟨db, some p⟩, d'))
    {before : Database} (hfile : d.node? p = some (.file before)) : d'.Leads l p := by
  refine of_filePlace? hd h fun s a path hs ha hpath ↦ ?_
  obtain ⟨d₀, d₁, s', a', path', found, hprepare, hs', ha', hpath', hopen, -, -, rfl⟩ :=
    openLocation_eq_ok h
  obtain rfl : s' = s := by rw [hs'] at hs; exact Except.ok.inj hs
  obtain rfl : a' = a := by rw [ha'] at ha; exact Except.ok.inj ha
  obtain rfl : path' = path := by rw [hpath'] at hpath; exact Option.some.inj hpath
  have hplain : d₀.Plain := by simpa [hprepare] using prepare_plain hd l
  have hthere : d₀.node? p = some (.file before) := by
    simpa [hprepare] using node?_prepare hd hfile l
  obtain ⟨hplace, ⟨-, rfl⟩ | ⟨hnone, -, -⟩⟩ := openFile_eq_ok hopen
  · rw [filePlace?_put_file hplain hthere, hplace]
  · rw [hthere] at hnone
    cases hnone

end Leads

/-- A location leads to a file to write to, and opened once more it leads there again. -/
def Persists (d : Disk) (l : Location) (p : Place) : Prop :=
  ∃ db d₁ db₁ d₂, d.openLocation l = (.ok ⟨db, some p⟩, d₁) ∧
    d₁.openLocation l = (.ok ⟨db₁, some p⟩, d₂)

/-- A location that persists leads to its file from the first opening on. -/
theorem Persists.leads {d : Disk} (hd : d.Plain) {l : Location} {p : Place} (h : d.Persists l p) :
    ∃ db d', d.openLocation l = (.ok ⟨db, some p⟩, d') ∧ d'.node? p = some (.file db) ∧
      d'.Leads l p := by
  obtain ⟨db, d₁, db₁, d₂, h₁, h₂⟩ := h
  obtain ⟨-, hfile, hprepare⟩ := opened_ready hd h₁
  refine ⟨db, d₁, h₁, hfile, .of_filePlace? hd h₁ fun s a path hs ha hpath ↦ ?_⟩
  obtain ⟨d₀, _, s', a', path', _, hprepare', hs', ha', hpath', hopen, -⟩ := openLocation_eq_ok h₂
  obtain rfl : d₁ = d₀ := by simpa [hprepare d₁ rfl fun _ hq ↦ hq] using hprepare'
  obtain rfl : s' = s := by rw [hs'] at hs; exact Except.ok.inj hs
  obtain rfl : a' = a := by rw [ha'] at ha; exact Except.ok.inj ha
  obtain rfl : path' = path := by rw [hpath'] at hpath; exact Option.some.inj hpath
  exact (openFile_eq_ok hopen).1

theorem missing_of_openLocation {d d' : Disk} {l : Location} {db : Database} {p : Place}
    (h : d.openLocation l = (.ok ⟨db, some p⟩, d')) : db.missing = [] := by
  obtain ⟨_, _, _, a, _, _, -, -, -, -, -, hcompleted, -, -⟩ := openLocation_eq_ok h
  rw [(completedFile_eq_ok hcompleted).2]

/-- A location that leads to a file that is there persists. -/
theorem Persists.of_file {d d' : Disk} (hd : d.Plain) {l : Location} {db before : Database}
    {p : Place} (h : d.openLocation l = (.ok ⟨db, some p⟩, d'))
    (hfile : d.node? p = some (.file before)) : d.Persists l p := by
  obtain ⟨-, hthere, -⟩ := opened_ready hd h
  have hleads : d'.Leads l p := .of_file hd h hfile
  exact ⟨db, d', _, _, h, hleads.openLocation hthere (missing_of_openLocation h)⟩

/-- What has been kept in the file of a location that persists is there when it is opened again. -/
theorem Persists.openLocation_keep {d : Disk} (hd : d.Plain) {l : Location} {p : Place}
    (h : d.Persists l p) :
    ∃ db d₁, d.openLocation l = (.ok ⟨db, some p⟩, d₁) ∧ db.missing = [] ∧
      ∀ db' : Database, db'.missing = [] → ∃ d₂,
        (d₁.keep ⟨db, some p⟩ db').openLocation l = (.ok ⟨db'.revived, some p⟩, d₂) := by
  obtain ⟨db, d₁, hopen, -, hleads⟩ := h.leads hd
  refine ⟨db, d₁, hopen, missing_of_openLocation hopen, fun db' hdb' ↦ ?_⟩
  exact ⟨_, (hleads.put db').openLocation (node?_put d₁ p _) hdb'⟩

end Disk

end TokenMint.Store
