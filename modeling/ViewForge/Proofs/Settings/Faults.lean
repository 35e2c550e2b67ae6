import ViewForge.Proofs.Settings.Validity

/-!
# Why settings are refused

Settings are checked for one fault after the other, and which profile is active matters to one of
the checks only: the checks of the names come before it and those of the content behind it
(`validate_eq`). So the same settings under two active profiles are refused with one message only if
they are refused for one fault (`fault_unique`): the message on a profile that is not found tells
its name, and no other message begins as it does.
-/

namespace ViewForge

/-! ## Beginnings of messages -/

/-- Whether a text begins with a character. -/
def BeginsWith (c : Char) (text : String) : Prop := text.toList.head? = some c

/-- A text begins as its first part does. -/
theorem BeginsWith.append {c : Char} {a : String} (h : BeginsWith c a) (b : String) :
    BeginsWith c (a ++ b) := by
  unfold BeginsWith at h ⊢
  rw [String.toList_append, List.head?_append, h, Option.some_or]

/-- A text begins with one character. -/
theorem BeginsWith.unique {c c' : Char} {text : String} (h : BeginsWith c text)
    (h' : BeginsWith c' text) : c = c' := Option.some.inj (h.symm.trans h')

/-- Texts with others between them begin as the first of them does. -/
theorem BeginsWith.intercalate {c : Char} {a : String} (h : BeginsWith c a) (between : String)
    (others : List String) : BeginsWith c (between.intercalate (a :: others)) := by
  cases others with
  | nil => rwa [String.intercalate_singleton]
  | cons b others =>
    rw [String.intercalate_cons_cons]
    exact (h.append _).append _

namespace Settings

variable {s : Settings} {fault fault' : SettingsFault}

/-! ## The order of the checks -/

/-- What is wrong with the profiles and their names. -/
def namesFault? (s : Settings) : Option SettingsFault :=
  if s.profiles.isEmpty then some .noProfiles
  else (repeatedName? [] s.profileNames).map .duplicateProfile

/-- What is wrong with the knobs and with the profiles by themselves. -/
def contentFault? (s : Settings) : Option SettingsFault :=
  let messages := s.profiles.flatMap (·.faultMessages)
  if s.formatting.indentSize > maxIndent then some (.indentTooLarge s.formatting.indentSize)
  else if s.generation.maxDepth = 0 then some .depthZero
  else if !messages.isEmpty then some (.profiles messages)
  else none

/-- The active profile is looked for between the other checks. -/
theorem validate_eq (s : Settings) :
    s.validate =
      match s.namesFault? with
      | some fault => .error fault
      | none =>
        match s.active with
        | .error fault => .error fault
        | .ok _ =>
          match s.contentFault? with
          | some fault => .error fault
          | none => .ok () := by
  unfold validate namesFault? contentFault?
  -- The checks run one after the other and the first that fails ends them, so they are split off in
  -- that order.
  dsimp only [bind, Except.bind, throw, throwThe, MonadExceptOf.throw, pure, Except.pure]
  split
  · rfl
  · cases repeatedName? [] s.profileNames with
    | some name => rfl
    | none =>
      cases s.active with
      | error fault => rfl
      | ok p =>
        dsimp only [Option.map_none]
        split
        · rfl
        split
        · rfl
        split <;> rfl

/-- The fault that settings are refused for is one of their names, one of their active profile or
one of their content. -/
theorem cases_of_validate_eq_error (h : s.validate = .error fault) :
    s.namesFault? = some fault ∨
      s.namesFault? = none ∧ (fault = .activeNotFound s.activeProfile s.profileNames ∨
        s.contentFault? = some fault) := by
  rw [validate_eq] at h
  cases hnames : s.namesFault? with
  | some first =>
    rw [hnames] at h
    exact .inl (congrArg some (Except.error.inj h))
  | none =>
    refine .inr ⟨rfl, ?_⟩
    rw [hnames] at h
    dsimp only at h
    -- With names in order, the active profile may be missing; if it is there, only the content is
    -- left.
    unfold active at h
    cases hfound : s.profile? s.activeProfile with
    | none =>
      rw [hfound] at h
      exact .inl (Except.error.inj h).symm
    | some p =>
      rw [hfound] at h
      cases hcontent : s.contentFault? with
      | none =>
        rw [hcontent] at h
        exact nomatch h
      | some other =>
        rw [hcontent] at h
        exact .inr (congrArg some (Except.error.inj h))

/-! ## Messages -/

/-- The message of a fault of a profile begins with a small letter. -/
theorem beginsWith_faultMessage {p : Profile} {message : String} (h : message ∈ p.faultMessages) :
    BeginsWith 'p' message := by
  obtain ⟨fault, -, rfl⟩ := List.mem_map.1 h
  have hlead : BeginsWith 'p' "profile '" := rfl
  have hplace (rest : String) : BeginsWith 'p' ("profile '" ++ p.name ++ rest) :=
    (hlead.append _).append _
  cases fault with
  | noName =>
    show BeginsWith 'p' "profile name must not be empty"
    rfl
  | unknownMarker slot marker => exact (((hplace _).append _).append _).append _
  | inRule index rule fault =>
    have hrule := (hplace "': mapping ").append (toString index)
    cases fault with
    | noType => exact hrule.append _
    | invalidType => exact ((hrule.append _).append _).append _
    | noOutput => exact ((hrule.append _).append _).append _
    | unknownMarker => exact (((hrule.append _).append _).append _).append _

/-- The message of an active profile that is not found begins with a capital. -/
theorem beginsWith_activeNotFound (name : String) (available : List String) :
    BeginsWith 'A' (SettingsFault.activeNotFound name available).message := by
  have hlead : BeginsWith 'A' "Active profile '" := rfl
  exact ((hlead.append _).append _).append _

/-- The message of a fault of the content begins with another letter. -/
theorem not_beginsWith_contentFault (h : s.contentFault? = some fault) :
    ¬ BeginsWith 'A' fault.message := by
  suffices hbegins : ∃ c ≠ 'A', BeginsWith c fault.message by
    obtain ⟨c, hne, hbegins⟩ := hbegins
    exact fun hcapital => hne (hbegins.unique hcapital)
  unfold contentFault? at h
  dsimp only at h
  split at h
  · obtain rfl := Option.some.inj h
    have hlead : BeginsWith 'f' "formatting.indent_size too large (max " := rfl
    exact ⟨'f', by decide, (((hlead.append _).append _).append _).append _⟩
  split at h
  · obtain rfl := Option.some.inj h
    have hmessage : BeginsWith 'g' "generation.max_sub_property_depth must be greater than 0" := rfl
    exact ⟨'g', by decide, hmessage⟩
  split at h
  · rename_i hsome
    obtain rfl := Option.some.inj h
    have hne : s.profiles.flatMap (·.faultMessages) ≠ [] := by
      rwa [Bool.not_eq_true', List.isEmpty_eq_false_iff] at hsome
    -- The first of the messages that are put together is one of a profile.
    obtain ⟨message, messages, hmessages⟩ := List.exists_cons_of_ne_nil hne
    have hmem : message ∈ s.profiles.flatMap (·.faultMessages) := hmessages ▸ List.mem_cons_self
    obtain ⟨p, -, hmessage⟩ := List.mem_flatMap.1 hmem
    rw [hmessages]
    exact ⟨'p', by decide, (beginsWith_faultMessage hmessage).intercalate _ _⟩
  · exact nomatch h

/-- The message tells which profile was not found. -/
theorem activeNotFound_eq_of_message {name name' : String} {available : List String}
    (h : (SettingsFault.activeNotFound name available).message =
      (SettingsFault.activeNotFound name' available).message) : name = name' := by
  have hlead : "Active profile '" ++ name = "Active profile '" ++ name' :=
    (String.append_left_inj _).1 ((String.append_left_inj _).1 h)
  exact (String.append_right_inj _).1 hlead

/-- The same settings under two active profiles are refused with one message for one fault only. -/
theorem fault_unique {name name' : String}
    (h : ({ s with activeProfile := name } : Settings).validate = .error fault)
    (h' : ({ s with activeProfile := name' } : Settings).validate = .error fault')
    (hmessage : fault.message = fault'.message) : fault = fault' := by
  -- Only the search for the active profile asks for its name.
  have hcases : s.namesFault? = some fault ∨ s.namesFault? = none ∧
      (fault = .activeNotFound name s.profileNames ∨ s.contentFault? = some fault) :=
    cases_of_validate_eq_error h
  have hcases' : s.namesFault? = some fault' ∨ s.namesFault? = none ∧
      (fault' = .activeNotFound name' s.profileNames ∨ s.contentFault? = some fault') :=
    cases_of_validate_eq_error h'
  rcases hcases with hnames | ⟨hnames, hfault⟩
  · rcases hcases' with hnames' | ⟨hnames', -⟩
    · exact Option.some.inj (hnames.symm.trans hnames')
    · exact nomatch hnames.symm.trans hnames'
  rcases hcases' with hnames' | ⟨-, hfault'⟩
  · exact nomatch hnames.symm.trans hnames'
  rcases hfault with rfl | hcontent <;> rcases hfault' with rfl | hcontent'
  · rw [activeNotFound_eq_of_message hmessage]
  · exact absurd (hmessage ▸ beginsWith_activeNotFound name _)
      (not_beginsWith_contentFault hcontent')
  · exact absurd (hmessage ▸ beginsWith_activeNotFound name' _)
      (not_beginsWith_contentFault hcontent)
  · exact Option.some.inj (hcontent.symm.trans hcontent')

end Settings

end ViewForge
