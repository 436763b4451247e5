import HandlerRouting.Proofs.MediaType.Refusals
import HandlerRouting.Proofs.RoutingTable.Declarations

/-!
Refusals of handlers. A list of handlers makes a table or has a defect of its declarations, and a
text is a media type or has a flaw, unless a NUL character in a charset comes to be looked up.
-/

namespace HandlerRouting
variable {h : Hierarchy}

def BuildFailure.IsDeclared (failure : BuildFailure) : Prop :=
  ∃ defect : Defect, failure = .defect defect ∧ defect.isDeclaration = true

namespace Handler
variable {a : Handler} {failure : BuildFailure}

theorem read_media_nul_iff (name : String) (given : Datum) :
    readMediaType name given = .error .nulInCharset ↔
      ∃ s, given = .text s ∧ MediaType.HidesNul s.toList := by
  cases given with
  | text s =>
    simp only [readMediaType, Datum.text.injEq, exists_eq_left', ← MediaType.parse_nul_iff]
    cases MediaType.parse s with
    | ok m => simp
    | error refusal => cases refusal <;> simp
  | _ => simp [readMediaType]

theorem read_media_refused {name : String} {given : Datum}
    (refused : readMediaType name given = .error failure) :
    failure = .nulInCharset ∨ failure.IsDeclared := by
  unfold readMediaType at refused
  dsimp only at refused
  split at refused
  · split at refused
    · cases refused
    · cases refused
      exact Or.inr ⟨_, rfl, rfl⟩
    · cases refused
      exact Or.inl rfl
  · cases refused
    exact Or.inr ⟨_, rfl, rfl⟩

theorem unreadable_iff (name : String) (data : List Datum) (failure : BuildFailure) :
    Unreadable name data failure ↔ ∃ earlier given later, data = earlier ++ given :: later ∧
      (∀ other ∈ earlier, (spelledMedia? other).isSome = true) ∧
        readMediaType name given = .error failure := by
  constructor
  · intro unreadable
    induction unreadable with
    | @here given rest _ refused => exact ⟨[], given, rest, rfl, by simp, refused⟩
    | @later first _ _ read _ ih =>
      obtain ⟨earlier, given, later, rfl, spelled, refused⟩ := ih
      exact ⟨first :: earlier, given, later, rfl, List.forall_mem_cons.mpr ⟨read, spelled⟩, refused⟩
  · rintro ⟨earlier, given, later, rfl, spelled, refused⟩
    induction earlier with
    | nil => exact .here refused
    | cons first rest ih =>
      obtain ⟨read, others⟩ := List.forall_mem_cons.mp spelled
      exact .later read (ih others)

theorem stopped_nul_iff (claims : List (Route × Handler)) (a : Handler) :
    a.StoppedBy h claims .nulInCharset ↔
      a.KnowsExceptions h ∧ Unreadable a.name a.mediaTypes .nulInCharset := by
  constructor
  · intro stopped
    cases stopped with
    | unfit fault =>
      cases fault with
      | mediaType known unreadable => exact ⟨known, unreadable⟩
  · rintro ⟨known, unreadable⟩
    exact .unfit (.mediaType known unreadable)

theorem contested_declared {held : Route → Option Handler} {routes : List Route} {defect : Defect}
    (contest : a.Contested held routes defect) : defect.isDeclaration = true := by
  induction contest with
  | here => rfl
  | later _ _ ih => exact ih

theorem stopped_declared {claims : List (Route × Handler)}
    (stopped : a.StoppedBy h claims failure) : failure = .nulInCharset ∨ failure.IsDeclared := by
  cases stopped with
  | unfit fault =>
    cases fault with
    | otherTypes => exact Or.inr ⟨_, rfl, rfl⟩
    | noTypes => exact Or.inr ⟨_, rfl, rfl⟩
    | mediaType _ unreadable =>
      obtain ⟨_, _, _, _, _, refused⟩ := (unreadable_iff ..).mp unreadable
      exact read_media_refused refused
  | contested _ _ contest => exact Or.inr ⟨_, rfl, contested_declared contest⟩

end Handler

namespace RoutingTable

theorem build_nul_iff (h : Hierarchy) (handlers : List Handler) :
    build h handlers = .error .nulInCharset ↔ MeetsNul h handlers := by
  simp only [build_error_iff, Handler.stopped_nul_iff, Handler.unreadable_iff,
    Handler.read_media_nul_iff]
  constructor
  · rintro ⟨front, a, rest, listed, valid, known, earlier, _, later, media, read, s, rfl, hides⟩
    exact .mk listed valid known media read hides
  · rintro ⟨listed, valid, known, media, read, hides⟩
    exact ⟨_, _, _, listed, valid, known, _, _, _, media, read, _, rfl, hides⟩

theorem build_outcome_iff (h : Hierarchy) (handlers : List Handler) :
    ((∃ t, build h handlers = .ok t) ∨
      ∃ failure, build h handlers = .error failure ∧ failure.IsDeclared) ↔
        ¬ MeetsNul h handlers := by
  rw [← build_nul_iff]
  constructor
  · rintro (⟨t, built⟩ | ⟨failure, refused, defect, rfl, _⟩) nul
    · rw [nul] at built
      cases built
    · rw [nul] at refused
      cases refused
  · intro seen
    cases built : build h handlers with
    | ok t => exact Or.inl ⟨t, rfl⟩
    | error failure =>
      obtain ⟨_, _, _, _, _, stopped⟩ := (build_error_iff ..).mp built
      rcases Handler.stopped_declared stopped with rfl | declared
      · exact absurd built seen
      · exact Or.inr ⟨failure, rfl, declared⟩

/-- A text is read or refused as no media type, and a list of handlers makes a table or has a defect
of its declarations, unless a charset with a NUL character comes first; a text without that
character is never such. -/
theorem outcomes_unless_nul (text : String) (h : Hierarchy) (handlers : List Handler) :
    (((∃ m, MediaType.parse text = .ok m) ∨
      ∃ flaw, MediaType.parse text = .error (.flawed text flaw)) ↔
        ¬ MediaType.HidesNul text.toList) ∧
    (((∃ t, build h handlers = .ok t) ∨
      ∃ failure, build h handlers = .error failure ∧ failure.IsDeclared) ↔
        ¬ MeetsNul h handlers) ∧
    (MediaType.HidesNul text.toList → '\x00' ∈ text.toList) :=
  ⟨MediaType.parse_outcome_iff text, build_outcome_iff h handlers, fun hides => hides.has_nul⟩

def nulHandler : Handler :=
  { function := ⟨"nul", none⟩, exceptions := [.cls (Hierarchy.builtinPlace "ValueError")],
    mediaTypes := [.text "a/b;charset=\"\x00\""], name := "nul" }

/-- The charset is neither reported as a flaw of the text nor as a defect of the handler. -/
theorem nul_charset_unreported :
    ¬ ((∃ m, MediaType.parse "a/b;charset=\"\x00\"" = .ok m) ∨
      ∃ flaw, MediaType.parse "a/b;charset=\"\x00\"" =
        .error (.flawed "a/b;charset=\"\x00\"" flaw)) ∧
    ¬ ((∃ t, build Hierarchy.builtin [nulHandler] = .ok t) ∨
      ∃ failure, build Hierarchy.builtin [nulHandler] = .error failure ∧ failure.IsDeclared) := by
  have refused : MediaType.parse "a/b;charset=\"\x00\"" = .error .nulInCharset := by decide
  have hides := (MediaType.parse_nul_iff "a/b;charset=\"\x00\"").mp refused
  have known : nulHandler.KnowsExceptions Hierarchy.builtin :=
    Or.inl ⟨by simp [nulHandler], by decide +kernel⟩
  have meets : MeetsNul Hierarchy.builtin [nulHandler] :=
    @MeetsNul.mk _ _ [] [] nulHandler [] [] _ rfl (valid_nil _) known rfl (by simp) hides
  rw [MediaType.parse_outcome_iff, build_outcome_iff]
  exact ⟨not_not.mpr hides, not_not.mpr meets⟩

end RoutingTable

end HandlerRouting
