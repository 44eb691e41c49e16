import TokenMint.Proofs.Store.Grants

/-! # What goes along with a row

Rows refer to others by table and number, and a row goes when one goes to which it refers.  So a
deletion begins at the row that has the number, runs on against the references, and takes whatever
it comes to: `Tables.Falls`.  Among tables that hang together every reference leads to one row, and
what has been deleted is just that: `Tables.Integrity.mem_remove`.  From a refresh token a deletion
comes to the access token issued with it, from there to the links of that one, and no further:
`Tables.Integrity.departs_removeRefresh`. -/

namespace TokenMint.Store

namespace Table

variable {ρ : Type} {t : Table ρ} {p q : ρ → Bool}

theorem keep_congr (h : ∀ r ∈ t.rows, p r = q r) : t.keep p = t.keep q :=
  congrArg ({ t with rows := · }) (List.filter_congr h)

theorem keep_eq_self (h : ∀ r ∈ t.rows, p r = true) : t.keep p = t :=
  congrArg ({ t with rows := · }) (List.filter_eq_self.mpr h)

end Table

/-! ## Rows of any table -/

/-- A row of one of the tables. -/
inductive Row where
  | user (u : User)
  | client (c : Client)
  | scope (s : Scope)
  | refreshToken (r : RefreshRow)
  | accessToken (a : AccessRow)
  | link (l : Link)
deriving DecidableEq, Repr

namespace Row

/-- The table and the number by which others refer to a row.  None refers to a link. -/
def place? : Row → Option (TableName × Int)
  | user u => some (.users, u.id)
  | client c => some (.clients, c.id)
  | scope s => some (.scopes, s.id)
  | refreshToken r => some (.refreshTokens, r.id)
  | accessToken a => some (.accessTokens, a.id)
  | link _ => none

/-- The places to which a row refers. -/
def references : Row → List (TableName × Int)
  | accessToken a =>
    a.clientId.toList.map (.clients, ·) ++ a.userId.toList.map (.users, ·) ++
      [(.refreshTokens, a.refreshTokenId)]
  | link l => [(.accessTokens, l.accessTokenId), (.scopes, l.scopeId)]
  | _ => []

/-- What a row for an access token stands on is itself and what it refers to. -/
theorem mem_anchors {a : AccessRow} {p : TableName × Int} :
    p ∈ a.anchors ↔ p ∈ (accessToken a).references ∨ (accessToken a).place? = some p := by
  simp [AccessRow.anchors, references, place?, or_assoc, eq_comm (a := p)]

end Row

namespace Tables

/-- Whether the tables have a row. -/
instance : Membership Row Tables where
  mem t
    | .user u => u ∈ t.users.rows
    | .client c => c ∈ t.clients.rows
    | .scope s => s ∈ t.scopes.rows
    | .refreshToken r => r ∈ t.refreshTokens.rows
    | .accessToken a => a ∈ t.accessTokens.rows
    | .link l => l ∈ t.links

variable {t : Tables}

@[simp] theorem user_mem {u : User} : Row.user u ∈ t ↔ u ∈ t.users.rows := Iff.rfl
@[simp] theorem client_mem {c : Client} : Row.client c ∈ t ↔ c ∈ t.clients.rows := Iff.rfl
@[simp] theorem scope_mem {s : Scope} : Row.scope s ∈ t ↔ s ∈ t.scopes.rows := Iff.rfl
@[simp] theorem refreshToken_mem {r : RefreshRow} :
    Row.refreshToken r ∈ t ↔ r ∈ t.refreshTokens.rows := Iff.rfl
@[simp] theorem accessToken_mem {a : AccessRow} :
    Row.accessToken a ∈ t ↔ a ∈ t.accessTokens.rows := Iff.rfl
@[simp] theorem link_mem {l : Link} : Row.link l ∈ t ↔ l ∈ t.links := Iff.rfl

/-- A number is one of a table's if a row of that table has it. -/
theorem mem_ids {n : TableName} {id : Int} : id ∈ t.ids n ↔ ∃ x ∈ t, x.place? = some (n, id) := by
  constructor
  · intro h
    cases n with
    | users =>
      obtain ⟨u, hu, rfl⟩ := List.mem_map.mp h
      exact ⟨.user u, hu, rfl⟩
    | clients =>
      obtain ⟨c, hc, rfl⟩ := List.mem_map.mp h
      exact ⟨.client c, hc, rfl⟩
    | scopes =>
      obtain ⟨s, hs, rfl⟩ := List.mem_map.mp h
      exact ⟨.scope s, hs, rfl⟩
    | refreshTokens =>
      obtain ⟨r, hr, rfl⟩ := List.mem_map.mp h
      exact ⟨.refreshToken r, hr, rfl⟩
    | accessTokens =>
      obtain ⟨a, ha, rfl⟩ := List.mem_map.mp h
      exact ⟨.accessToken a, ha, rfl⟩
    | links => exact absurd h List.not_mem_nil
  · rintro ⟨x, hx, hplace⟩
    cases x <;> cases hplace <;> exact List.mem_map_of_mem hx

/-- Every reference leads to a row. -/
theorem Integrity.exists_of_reference (h : t.Integrity) {x : Row} (hx : x ∈ t)
    {p : TableName × Int} (hp : p ∈ x.references) : ∃ y ∈ t, y.place? = some p := by
  refine mem_ids.mp ?_
  cases x with
  | accessToken a => exact h.access_anchors hx p (Row.mem_anchors.mpr (.inl hp))
  | link l =>
    obtain ⟨⟨a, ha, hid⟩, s, hs, hsid⟩ := h.linked l hx
    rcases List.mem_pair.mp hp with rfl | rfl
    · exact List.mem_map.mpr ⟨a, ha, hid⟩
    · exact List.mem_map.mpr ⟨s, hs, hsid⟩
  | _ => cases hp

/-- It leads to one row only. -/
theorem Integrity.eq_of_place (h : t.Integrity) {x y : Row} (hx : x ∈ t) (hy : y ∈ t)
    {p : TableName × Int} (hxp : x.place? = some p) (hyp : y.place? = some p) : x = y := by
  -- rows of different tables have different places
  cases x <;> cases hxp <;> cases y <;>
    simp only [Row.place?, Option.some.injEq, Prod.mk.injEq, reduceCtorEq, false_and,
      true_and] at hyp
  · exact congrArg Row.user (List.inj_on_of_nodup_map h.users.ids hx hy hyp.symm)
  · exact congrArg Row.client (List.inj_on_of_nodup_map h.clients.ids hx hy hyp.symm)
  · exact congrArg Row.scope (List.inj_on_of_nodup_map h.scopes.ids hx hy hyp.symm)
  · exact congrArg Row.refreshToken (List.inj_on_of_nodup_map h.refreshTokens.ids hx hy hyp.symm)
  · exact congrArg Row.accessToken (List.inj_on_of_nodup_map h.accessTokens.ids hx hy hyp.symm)

/-! ## What falls -/

/-- What goes when the row at a place is deleted: that row, if there is one, and whatever refers to
a row that goes. -/
inductive Falls (t : Tables) (p : TableName × Int) : Row → Prop
  | root {x : Row} (hx : x ∈ t) (hplace : x.place? = some p) : Falls t p x
  | along {x y : Row} {q : TableName × Int} (hy : Falls t p y) (hplace : y.place? = some q)
    (hx : x ∈ t) (hq : q ∈ x.references) : Falls t p x

theorem Falls.mem {p : TableName × Int} {x : Row} (h : t.Falls p x) : x ∈ t := by
  cases h with
  | root hx => exact hx
  | along _ _ hx => exact hx

/-- Nothing goes with a row that is not there. -/
theorem not_falls {n : TableName} {id : Int} (hid : id ∉ t.ids n) (x : Row) :
    ¬ t.Falls (n, id) x := by
  intro h
  induction h with
  | root hx hplace => exact hid (mem_ids.mpr ⟨_, hx, hplace⟩)
  | along _ _ _ _ ih => exact ih

/-! ## What is deleted -/

/-- Of the rows other than links, those are deleted that have the number or refer to it. -/
theorem mem_remove_of_ne_link {n : TableName} {id : Int} {x : Row} (hx : ∀ l, x ≠ .link l) :
    x ∈ t.remove n id ↔ x ∈ t ∧ x.place? ≠ some (n, id) ∧ (n, id) ∉ x.references := by
  cases x with
  | link l => exact absurd rfl (hx l)
  | accessToken a =>
    refine mem_remove_accessTokens.trans (and_congr_right' ?_)
    rw [Row.mem_anchors, not_or]
    exact and_comm
  | _ =>
    cases n <;>
      simp [remove, removeUser, removeClient, removeScope, removeRefresh, removeAccess, Row.place?,
        Row.references]

theorem of_mem_remove {n : TableName} {id : Int} {x : Row} (h : x ∈ t.remove n id) : x ∈ t := by
  cases x with
  | link l =>
    cases n with
    | links => exact h
    | _ => exact List.mem_of_mem_filter h
  | _ =>
    refine ((mem_remove_of_ne_link ?_).mp h).1
    nofun

/-- What refers to a place falls with it, since a reference leads to a row. -/
theorem Integrity.falls_of_reference (h : t.Integrity) {x : Row} (hx : x ∈ t)
    {p : TableName × Int} (hp : p ∈ x.references) : t.Falls p x := by
  obtain ⟨y, hy, hplace⟩ := h.exists_of_reference hx hp
  exact .along (.root hy hplace) hplace hx hp

/-- What falls is not left. -/
theorem Integrity.not_mem_remove_of_falls (h : t.Integrity) {n : TableName} {id : Int} {x : Row}
    (hx : t.Falls (n, id) x) : x ∉ t.remove n id := by
  induction hx with
  | root hx hplace => exact fun hleft ↦ t.not_mem_remove n id (mem_ids.mpr ⟨_, hleft, hplace⟩)
  | @along x y q hy hplace hx hq ih =>
    intro hleft
    -- what is left hangs together, so the reference leads to a row that is left
    obtain ⟨z, hz, hzplace⟩ := (h.remove n id).exists_of_reference hleft hq
    obtain rfl := h.eq_of_place hy.mem (of_mem_remove hz) hplace hzplace
    exact ih hz

/-- What does not fall is left. -/
theorem Integrity.mem_remove_of_not_falls (h : t.Integrity) {n : TableName} {id : Int} {x : Row}
    (hx : x ∈ t) (hstays : ¬ t.Falls (n, id) x) : x ∈ t.remove n id := by
  have hother {y : Row} (hy : y ∈ t) (hlink : ∀ l, y ≠ .link l) (hfalls : ¬ t.Falls (n, id) y) :
      y ∈ t.remove n id := by
    refine (mem_remove_of_ne_link hlink).mpr ⟨hy, fun hplace ↦ hfalls ?_, fun href ↦ hfalls ?_⟩
    · exact .root hy hplace
    · exact h.falls_of_reference hy href
  cases x with
  | link l =>
    obtain ⟨accessTokenId, scopeId⟩ := l
    obtain ⟨⟨a, ha, rfl⟩, -⟩ := h.linked _ hx
    have hleft : Row.accessToken a ∈ t.remove n id := by
      refine hother ha nofun fun hfalls ↦ hstays ?_
      exact .along hfalls rfl hx (List.mem_cons_self ..)
    refine (h.mem_links_remove hleft).mpr ⟨hx, fun heq ↦ hstays ?_⟩
    exact h.falls_of_reference hx (heq ▸ List.mem_cons_of_mem _ (List.mem_cons_self ..))
  | _ => exact hother hx nofun hstays

/-- A deletion takes what falls, and leaves all else. -/
theorem Integrity.mem_remove (h : t.Integrity) {n : TableName} {id : Int} {x : Row} :
    x ∈ t.remove n id ↔ x ∈ t ∧ ¬ t.Falls (n, id) x :=
  ⟨fun hx ↦ ⟨of_mem_remove hx, fun hfalls ↦ h.not_mem_remove_of_falls hfalls hx⟩,
    fun ⟨hx, hstays⟩ ↦ h.mem_remove_of_not_falls hx hstays⟩

/-! ## A refresh token -/

/-- A refresh token goes, with the access token that has been issued with it and the links of that
one, if there is one; and all else stays as it is, in its order, and with what has been counted. -/
structure Departs (t : Tables) (r : RefreshRow) (t' : Tables) : Prop where
  users : t'.users = t.users
  clients : t'.clients = t.clients
  scopes : t'.scopes = t.scopes
  refreshTokens : t'.refreshTokens = t.refreshTokens.keep (· ≠ r)
  accessTokens : t'.accessTokens = t.accessTokens.keep (some · ≠ t.partner r)
  links : t'.links = t.links.filter (some ·.accessTokenId ≠ (t.partner r).map (·.id))

/-- The partner of a refresh token is the access token that has its number. -/
theorem Integrity.partner_eq_iff (h : t.Integrity) {r : RefreshRow} {a : AccessRow}
    (ha : a ∈ t.accessTokens.rows) : some a = t.partner r ↔ a.refreshTokenId = r.id := by
  rw [eq_comm, h.partner_eq_some, and_iff_right ha]

theorem Integrity.departs_removeRefresh (h : t.Integrity) {r : RefreshRow}
    (hr : r ∈ t.refreshTokens.rows) : t.Departs r (t.removeRefresh r.id) where
  users := rfl
  clients := rfl
  scopes := rfl
  refreshTokens := by
    refine Table.keep_congr fun x hx ↦ decide_eq_decide.mpr (not_congr ?_)
    exact ⟨List.inj_on_of_nodup_map h.refreshTokens.ids hx hr, congrArg _⟩
  accessTokens := by
    refine Table.keep_congr fun a ha ↦ ?_
    rw [← decide_not, decide_eq_decide, ne_eq, h.partner_eq_iff ha]
  links := by
    refine List.filter_congr fun l _ ↦ ?_
    rw [Bool.eq_iff_iff, Bool.not_eq_true', List.any_eq_false, decide_eq_true_iff, ne_eq, eq_comm,
      Option.map_eq_some_iff]
    simp [h.partner_eq_some]

/-- Where no access token goes, no link does. -/
theorem removeAccess_eq_self {gone : AccessRow → Bool}
    (h : ∀ a ∈ t.accessTokens.rows, gone a = false) : t.removeAccess gone = t := by
  have haccess : (t.accessTokens.keep fun a ↦ !gone a) = t.accessTokens :=
    Table.keep_eq_self fun a ha ↦ by rw [h a ha, Bool.not_false]
  have hlinks : (t.removeAccess gone).links = t.links := by
    refine List.filter_eq_self.mpr fun l _ ↦ ?_
    rw [Bool.not_eq_true', List.any_eq_false]
    intro a ha
    rw [h a ha, Bool.false_and]
    exact Bool.false_ne_true
  calc t.removeAccess gone
    _ = { t with
          accessTokens := t.accessTokens.keep fun a ↦ !gone a
          links := (t.removeAccess gone).links } := rfl
    _ = t := by rw [haccess, hlinks]

/-- Where there is no refresh token with a number, nothing refers to one. -/
theorem Integrity.removeRefresh_of_not_mem (h : t.Integrity) {id : Int}
    (hid : id ∉ t.ids .refreshTokens) : t.removeRefresh id = t := by
  have haccess : t.removeAccess (·.refreshTokenId = id) = t := by
    refine removeAccess_eq_self fun a ha ↦ decide_eq_false fun heq ↦ hid ?_
    obtain ⟨r, hr, hrid⟩ := h.refresh a ha
    exact List.mem_map.mpr ⟨r, hr, hrid.trans heq⟩
  have hrefresh : t.refreshTokens.keep (·.id ≠ id) = t.refreshTokens :=
    Table.keep_eq_self fun r hr ↦ decide_eq_true fun heq ↦ hid (heq ▸ List.mem_map_of_mem hr)
  rw [Tables.removeRefresh, haccess, hrefresh]

/-! ## One table after the other -/

/-- Links, access tokens and refresh tokens are taken out one after the other: each time rows of one
table go, and what refers to these is gone already. -/
structure Piecemeal (t : Tables) (id : Int) (t' : Tables) : Prop where
  links : t.unlink id = { t with links := t'.links }
  accessTokens : (t.unlink id).removeAccess (·.refreshTokenId = id) =
    { t.unlink id with accessTokens := t'.accessTokens }
  refreshTokens : ((t.unlink id).removeAccess (·.refreshTokenId = id)).removeRefresh id =
    { (t.unlink id).removeAccess (·.refreshTokenId = id) with refreshTokens := t'.refreshTokens }

theorem piecemeal_removeRefresh (t : Tables) (id : Int) : t.Piecemeal id (t.removeRefresh id) where
  links := rfl
  accessTokens := by
    have hlinks : ((t.unlink id).removeAccess (·.refreshTokenId = id)).links =
        (t.unlink id).links :=
      List.filter_eq_self.mpr fun l hl ↦ (List.mem_filter.mp hl).2
    exact congrArg (fun links ↦ ({ t.unlink id with
      links, accessTokens := (t.removeRefresh id).accessTokens } : Tables)) hlinks
  refreshTokens := by
    have hnone : ∀ a ∈ ((t.unlink id).removeAccess (·.refreshTokenId = id)).accessTokens.rows,
        decide (a.refreshTokenId = id) = false :=
      fun a ha ↦ Integrity.not_gone ha
    exact congrArg (fun u : Tables ↦ { u with refreshTokens := u.refreshTokens.keep (·.id ≠ id) })
      (removeAccess_eq_self hnone)

end Tables

end TokenMint.Store
