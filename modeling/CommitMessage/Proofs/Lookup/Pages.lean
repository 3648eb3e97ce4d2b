import CommitMessage.Proofs.Lookup.Fetches
import CommitMessage.Proofs.Page.Extraction
import CommitMessage.Proofs.Register

/-! What becomes of a page that comes with success. If its detail can be read, all who wait learn
whether the reference exists, and the cache keeps it. If not, all who wait are failed. -/

namespace CommitMessage.Desk

variable {τ κ : Type}

/-- Who gets which outcome. -/
def deliveries (signals : List (Signal τ κ)) : List (κ × Outcome) :=
  signals.filterMap fun
    | .deliver caller outcome => some (caller, outcome)
    | _ => none

variable {d : Desk τ κ} {f : Fetch κ} {r : Reference}

theorem deliveries_finish (d : Desk τ κ) (f : Fetch κ) (outcome : Outcome) :
    deliveries (d.finish f outcome).2 = f.callers.map (·, outcome) := by
  simp only [finish, deliveries, List.filterMap_cons, List.filterMap_map]
  exact congrFun (List.filterMap_eq_map (f := fun caller => (caller, outcome))) f.callers

theorem deliveries_notes {notes : List (Signal τ κ)} (hn : ∀ x ∈ notes, ∃ e, x = .note e)
    (signals : List (Signal τ κ)) : deliveries (notes ++ signals) = deliveries signals := by
  rw [deliveries, List.filterMap_append, List.filterMap_eq_nil_iff.mpr, List.nil_append, deliveries]
  intro x hx
  obtain ⟨e, rfl⟩ := hn x hx
  rfl

end CommitMessage.Desk

namespace CommitMessage.Cache

variable {τ : Type} [TimeLine τ] [DecidableLT τ]

theorem get?_put (c : Cache τ) (now : τ) (r : Reference) (e : Entry τ) :
    (c.put now r e).2.entries.get? r = some e := by
  rw [put]
  split
  all_goals simp

end CommitMessage.Cache

namespace CommitMessage.Desk

variable {τ κ : Type} [TimeLine τ] [DecidableLT τ] {d : Desk τ κ} {f : Fetch κ} {r : Reference}

theorem not_isTransient_of_isSuccess {response : Response} (h : response.isSuccess = true) :
    response.isTransient = false := by
  simp only [Response.isSuccess, Bool.and_eq_true, decide_eq_true_eq] at h
  simp only [Response.isTransient, Bool.or_eq_false_iff, decide_eq_false_iff_not,
    beq_eq_false_iff_ne]
  omega

theorem reply_eq (now : τ) (hf : d.fetch? r = some f) (hs : f.stage = .fetching)
    (hc : f.calledOff = false) {response : Response} (hok : response.isSuccess = true) :
    d.reply now r (.page response) =
      match Reference.readPage r.kind response.body with
      | .error problem => d.finish f (.failed ⟨"ValueError".toList, problem.message⟩)
      | .ok verdict =>
        let kept := d.cache.put now r ⟨verdict, now⟩
        let change := { d with cache := kept.2 }.finish f (.resolved (.ofVerdict r verdict))
        (change.1, kept.1.map (fun notice => .note ⟨f.pass, notice⟩) ++ change.2) := by
  obtain rfl := (mem_of_fetch? hf).2
  have ht := not_isTransient_of_isSuccess hok
  simp only [reply, hf, hs, hc, readResponse, ht, Reference.interpret, hok]
  rfl

/-- A page that comes with success. No extractor fails but at a decimal reference that is too
long, and everyone who waits learns whether the reference exists, unless the extractor of its kind
fails so. -/
theorem reply_page (now : τ) (hf : d.fetch? r = some f) (hs : f.stage = .fetching)
    (hc : f.calledOff = false) (response : Response) (hok : response.isSuccess = true) :
    (∀ body, ((∃ p, Page.ticketTitle body = .error p) ↔ Page.TicketUnreadable body) ∧
      ((∃ p, Page.changesetMessage body = .error p) ↔ Page.ChangesetUnreadable body) ∧
      ((∃ p, Page.profileName body = .error p) ↔ Page.ProfileUnreadable body)) ∧
    (¬ Reference.Unreadable r.kind response.body → ∃ detail,
      deliveries (d.reply now r (.page response)).2 = f.callers.map (·, .resolved
        ⟨r, Reference.existsBy r.kind response.body, detail, true⟩) ∧
      (d.reply now r (.page response)).1.cache.entries.get? r =
        some ⟨⟨Reference.existsBy r.kind response.body, detail⟩, now⟩) ∧
    (Reference.Unreadable r.kind response.body → ∃ failure,
      deliveries (d.reply now r (.page response)).2 = f.callers.map (·, .failed failure) ∧
      (d.reply now r (.page response)).1.cache = d.cache) := by
  refine ⟨fun body => ⟨Page.ticketTitle_error_iff, Page.changesetMessage_error_iff,
    Page.profileName_error_iff⟩, fun hread => ?_, fun hno => ?_⟩
  · obtain ⟨-, detail, hp⟩ :=
      (Reference.readPage_cases r.kind response.body).resolve_left fun h => hread h.1
    refine ⟨detail, ?_⟩
    rw [reply_eq now hf hs hc hok, hp]
    dsimp only
    constructor
    · rw [deliveries_notes, deliveries_finish]
      · rfl
      · intro x hx
        obtain ⟨notice, -, rfl⟩ := List.mem_map.mp hx
        exact ⟨_, rfl⟩
    · exact Cache.get?_put d.cache now r _
  · obtain ⟨-, problem, hp⟩ :=
      (Reference.readPage_cases r.kind response.body).resolve_right fun h => h.1 hno
    refine ⟨⟨"ValueError".toList, problem.message⟩, ?_⟩
    rw [reply_eq now hf hs hc hok, hp]
    exact ⟨deliveries_finish d f _, rfl⟩

/-- A desk that waits for the page of a profile. -/
def waitingDesk : Desk ℚ Nat :=
  { hosts := ⟨[], []⟩
    timeout := .ofNat 1
    cache := { capacity := 1, lifetime := fun _ => 1 }
    limiter := { interval := 0 }
    fetches :=
      [{ reference := ⟨.profile, ['a']⟩, stage := .fetching, pass := none, callers := [7] }] }

theorem reply_page_waitingDesk :
    Reference.Unreadable .profile Page.overlongTitle ∧
      ¬ Reference.Unreadable .profile [] ∧
      (∃ failure,
        deliveries (waitingDesk.reply 0 ⟨.profile, ['a']⟩ (.page ⟨200, Page.overlongTitle⟩)).2 =
          [(7, .failed failure)]) ∧
      ∃ detail, deliveries (waitingDesk.reply 0 ⟨.profile, ['a']⟩ (.page ⟨200, []⟩)).2 =
        [(7, .resolved ⟨⟨.profile, ['a']⟩, true, detail, true⟩)] := by
  have hunreadable : Reference.Unreadable .profile Page.overlongTitle :=
    ⟨rfl, Page.profileUnreadable_overlongTitle⟩
  have hempty : ¬ Reference.Unreadable .profile [] := by
    rintro ⟨-, t, ht, -⟩
    cases ht
  have hfetch : waitingDesk.fetch? ⟨.profile, ['a']⟩ =
      some { reference := ⟨.profile, ['a']⟩, stage := .fetching, pass := none, callers := [7] } :=
    rfl
  obtain ⟨-, -, hfailed⟩ := reply_page 0 hfetch rfl rfl
    ⟨200, Page.overlongTitle⟩ rfl
  obtain ⟨-, hresolved, -⟩ := reply_page 0 hfetch rfl rfl ⟨200, []⟩ rfl
  obtain ⟨failure, hd, -⟩ := hfailed hunreadable
  obtain ⟨detail, hd', -⟩ := hresolved hempty
  exact ⟨hunreadable, hempty, ⟨failure, hd⟩, detail, hd'⟩

end CommitMessage.Desk
