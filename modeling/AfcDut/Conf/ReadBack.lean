import AfcDut.Conf.Credentials
import AfcDut.Conf.Placement
import Mathlib.Data.List.TakeWhile

/-!
# Reading a setting back

What `get_wsc_cred_handler` reads of a setting in a text of whole lines: what
stands behind the first token, be it that of the setting or one before it.
-/

namespace AfcDut.Conf

open Indigo ControlApp Data.Search Data.Lines

variable {before rest value : List UInt8} {tok : String}

/-- No token before the setting, or one that reads the same. -/
def Undisturbed (before : List UInt8) (tok : String) (value : List UInt8) : Prop :=
  strstr before (cString tok) = none ∧ 0 ∉ value ∨
    strstr before (cString tok) ≠ none ∧ credValue before tok = .ok value

/-! ## Marks -/

theorem takeWhile_append_mark {mark : UInt8} {text : List UInt8} (h : mark ∉ text)
    (rest : List UInt8) : (text ++ mark :: rest).takeWhile (· ≠ mark) = text := by
  rw [List.takeWhile_append_of_pos, List.takeWhile_cons_of_neg (by simp), List.append_nil]
  intro b hb
  simp only [ne_eq, decide_not, Bool.not_eq_eq_eq_not, Bool.not_true, decide_eq_false_iff_not]
  rintro rfl
  exact h hb

/-- What stands before a mark does not depend on what follows it. -/
theorem upTo_append {mark : UInt8} {text : List UInt8} (h : mark ∈ text) (rest : List UInt8) :
    upTo mark (text ++ rest) = upTo mark text := by
  obtain ⟨start, text, rfl, hstart⟩ := List.eq_append_cons_of_mem h
  have hmem : mark ∈ start ++ mark :: text := by simp
  have hmem' : mark ∈ start ++ mark :: (text ++ rest) := by simp
  rw [List.append_assoc, List.cons_append, upTo, upTo, takeWhile_append_mark hstart,
    takeWhile_append_mark hstart]
  simp [hmem, hmem']

theorem upTo_mark {mark : UInt8} {text : List UInt8} (h : mark ∉ text)
    (hlen : text.length < credSize) (rest : List UInt8) :
    upTo mark (text ++ mark :: rest) = .ok text := by
  have hmem : mark ∈ text ++ mark :: rest := by simp
  rw [upTo, takeWhile_append_mark h, if_pos ⟨hmem, hlen⟩]

theorem upTo_of_not_mem {mark : UInt8} {text : List UInt8} (h : mark ∉ text)
    {value : List UInt8} : upTo mark text ≠ .ok value := by
  rw [upTo, if_neg fun hboth => h hboth.1]
  exact fun heq => by cases heq

/-- What is read has no text before it that it skips. -/
theorem prefix_of_upTo {mark : UInt8} {text rest value : List UInt8} (h : mark ∉ text)
    (hread : upTo mark (text ++ rest) = .ok value) : text <+: value := by
  unfold upTo at hread
  split at hread
  · obtain rfl := Except.ok.inj hread
    rw [List.takeWhile_append_of_pos]
    · exact List.prefix_append text _
    · intro b hb
      simp only [ne_eq, decide_not, Bool.not_eq_eq_eq_not, Bool.not_true, decide_eq_false_iff_not]
      rintro rfl
      exact h hb
  · cases hread

/-! ## A setting -/

theorem readSetting_of_ne {b : UInt8} {text : List UInt8} (h : b ≠ quote) :
    readSetting (b :: text) = upTo newline (b :: text) := by
  unfold readSetting
  split
  · rename_i heq
    exact absurd (List.cons_eq_cons.mp heq).1 h
  · rfl

/-- The value of a line. -/
theorem readSetting_line (hline : newline ∉ value) (hquote : quote ∉ value)
    (hlen : value.length < credSize) (rest : List UInt8) :
    readSetting (value ++ newline :: rest) = .ok value := by
  cases value with
  | nil =>
      rw [List.nil_append, readSetting_of_ne (by decide)]
      exact upTo_mark hline hlen rest
  | cons b value =>
      rw [List.cons_append, readSetting_of_ne fun heq => hquote (heq ▸ List.mem_cons_self)]
      exact upTo_mark hline hlen rest

/-- The value of a line with quotes. -/
theorem readSetting_quoted (hquote : quote ∉ value) (hlen : value.length < credSize)
    (rest : List UInt8) : readSetting (quote :: (value ++ quote :: rest)) = .ok value :=
  upTo_mark hquote hlen rest

/-- Behind whole lines, a value of one line is not read over their end. -/
theorem readSetting_append (hvalue : newline ∉ value) (start rest : List UInt8) :
    readSetting (start ++ newline :: rest) = .ok value ↔
      readSetting (start ++ [newline]) = .ok value := by
  cases start with
  | nil =>
      rw [List.nil_append, List.nil_append, readSetting_of_ne (by decide),
        readSetting_of_ne (by decide), ← List.singleton_append, upTo_append List.mem_cons_self]
  | cons b start =>
      rw [List.cons_append, List.cons_append]
      have hjoin : start ++ newline :: rest = (start ++ [newline]) ++ rest := by simp
      by_cases hb : b = quote
      · subst hb
        show upTo quote (start ++ newline :: rest) = .ok value ↔
          upTo quote (start ++ [newline]) = .ok value
        rw [hjoin]
        by_cases hquote : quote ∈ start ++ [newline]
        · rw [upTo_append hquote]
        · constructor
          · intro hread
            exact absurd ((prefix_of_upTo hquote hread).subset (by simp)) hvalue
          · intro hread
            exact absurd hread (upTo_of_not_mem hquote)
      · rw [readSetting_of_ne hb, readSetting_of_ne hb, hjoin, ← List.cons_append,
          upTo_append (by simp)]

/-! ## A token -/

/-- The search goes on behind whole lines without the token. -/
theorem strstr_of_clear (hbefore : Whole before) (htok : newline ∉ cString tok)
    (h : strstr before (cString tok) = none) (rest : List UInt8) :
    strstr (before ++ rest) (cString tok) = strstr rest (cString tok) := by
  rcases hbefore with rfl | ⟨start, rfl⟩
  · rfl
  · rw [List.append_assoc, List.singleton_append, strstr_append_of_none htok h]

/-- The setting behind a text without its token. -/
theorem credValue_of_clear (hbefore : Whole before) (htok : newline ∉ cString tok)
    (h : strstr before (cString tok) = none) (rest : List UInt8) :
    credValue (before ++ (cString tok ++ rest)) tok = readSetting rest := by
  rw [credValue, strstr_of_clear hbefore htok h, strstr_of_start (List.prefix_append _ rest)]
  simp only [← length_cString, List.drop_left]

/-- What is found in whole lines goes on to the end of a line. -/
theorem tail_of_found {tail : List UInt8} (hbefore : Whole before)
    (htok : newline ∉ cString tok) (hne : cString tok ≠ [])
    (h : cString tok ++ tail <:+ before) : ∃ start, tail = start ++ [newline] := by
  rcases hbefore with rfl | ⟨lines, rfl⟩
  · exact absurd (List.append_eq_nil_iff.mp (List.suffix_nil.mp h)).1 hne
  · rcases List.suffix_concat_iff.mp h with hnil | ⟨t, ht, -⟩
    · exact absurd (List.append_eq_nil_iff.mp hnil).1 hne
    · rcases List.eq_nil_or_concat tail with rfl | ⟨start, b, rfl⟩
      · rw [List.append_nil] at ht
        exact absurd (ht ▸ List.mem_concat_self) htok
      · rw [List.concat_eq_append, ← List.append_assoc] at ht
        obtain rfl := (List.cons_eq_cons.mp (List.append_inj' ht rfl).2).1
        exact ⟨start, List.concat_eq_append⟩

/-- A token before the setting hides it. -/
theorem credValue_of_found (hbefore : Whole before) (htok : newline ∉ cString tok)
    (hne : cString tok ≠ []) (h : strstr before (cString tok) ≠ none) (hvalue : newline ∉ value)
    (rest : List UInt8) :
    credValue (before ++ rest) tok = .ok value ↔ credValue before tok = .ok value := by
  obtain ⟨pos, hpos⟩ := Option.ne_none_iff_exists'.mp h
  obtain ⟨⟨tail, rfl⟩, hsuffix⟩ := of_strstr hpos
  obtain ⟨start, rfl⟩ := tail_of_found hbefore htok hne hsuffix
  rw [credValue, credValue, strstr_append_of_some hpos, hpos]
  simp only [← length_cString, List.append_assoc, List.drop_left, List.singleton_append]
  exact readSetting_append hvalue start rest

/-- **Reading back.** The setting of a token behind whole lines, whose text reads
as the value up to its first NUL. -/
theorem credValue_iff (hbefore : Whole before) (htok : newline ∉ cString tok)
    (hne : cString tok ≠ []) (hvalue : newline ∉ value) {rest : List UInt8}
    (hread : readSetting rest = .ok (cText value)) :
    credValue (before ++ (cString tok ++ rest)) tok = .ok value ↔
      Undisturbed before tok value := by
  unfold Undisturbed
  by_cases hnone : strstr before (cString tok) = none
  · rw [credValue_of_clear hbefore htok hnone, hread]
    simp only [hnone, true_and, ne_eq, not_true_eq_false, false_and, or_false]
    constructor
    · intro heq hnul
      rw [← Except.ok.inj heq, cText] at hnul
      have hne := List.mem_takeWhile_imp hnul
      simp at hne
    · intro hnul
      rw [cText_of_not_mem hnul]
  · rw [credValue_of_found hbefore htok hne hnone hvalue]
    simp [hnone]

theorem value_length_lt (t : PlacedTlv) : t.value.length < credSize := by
  have hlen : t.hdr.len.toNat < 256 := t.hdr.len.toNat_lt
  rw [PlacedTlv.value, List.length_take]
  unfold credSize
  omega

theorem cText_sublist (value : List UInt8) : (cText value).Sublist value :=
  List.takeWhile_sublist _

/-! ## The settings of hostapd -/

variable {ts before' after : List PlacedTlv} {t : PlacedTlv} {name : String}

/-- The credentials of an access point. -/
def aputNames : List (UInt16 × String) :=
  [(tlvSsid, "ssid"), (tlvWpaPassphrase, "wpa_passphrase"), (tlvWpaKeyMgmt, "wpa_key_mgmt")]

/-- They are settings that nothing else claims. -/
theorem written_cred (env : HapdEnv) (hasOwe hasIcons : Bool) (table : Table)
    (hid : (t.id, name) ∈ aputNames) :
    written env hasOwe hasIcons table t = configLine (cString name) (cText t.value) := by
  have hpairs : ∀ pair ∈ aputNames,
      pair.1 ≠ tlvChannel ∧ pair.1 ≠ tlvHe6gOnly ∧ pair.1 ≠ tlvBssIdentifier ∧
        pair.1 ≠ tlvHessid ∧ pair.1 ≠ tlvWpsEnable ∧
        pair.1 ≠ tlvOweTransitionBssIdentifier ∧
        findGenericTlvConfig pair.1 semicolonList = none ∧
        (findTlvHs2Profile pair.1).isNone = true ∧
        findTlvConfig pair.1 = some ⟨pair.1, cString pair.2, false⟩ := by decide +kernel
  obtain ⟨hchannel, h6g, hbss, hhessid, hwps, howe, hsemi, hprofile, hcfg⟩ := hpairs _ hid
  unfold written
  simp only [hchannel, h6g, hbss, hhessid, hwps, howe, hsemi,
    Option.isNone_iff_eq_none.mp hprofile, hcfg, false_and, if_false]

/-- A credential in the text of hostapd. -/
theorem hapd_cred_iff (env : HapdEnv) (band : List UInt8) (table : Table)
    (hsplit : ts = before' ++ t :: after)
    (hid : (t.id, name) ∈ aputNames)
    (hclean : newline ∉ t.value ∧ quote ∉ t.value) {tok : String}
    (htok : cString tok = cString name ++ [equalsSign]) :
    credValue (hapdText env band table ts) tok = .ok t.value ↔
      Undisturbed (hapdHeader env ++ loopText env false false table before') tok t.value := by
  have hbefore : Whole (hapdHeader env ++ loopText env false false table before') :=
    (whole_hapdHeader env).append (whole_loopText _ _ _ _ _)
  have hnames : ∀ pair ∈ aputNames, newline ∉ cString pair.2 ++ [equalsSign] := by decide
  have hnewline : newline ∉ cString tok := htok ▸ hnames _ hid
  have hne : cString tok ≠ [] := by
    rw [htok]
    simp
  have hread : ∀ rest, readSetting (cText t.value ++ newline :: rest) = .ok (cText t.value) :=
    readSetting_line (fun h => hclean.1 ((cText_sublist _).subset h))
      (fun h => hclean.2 ((cText_sublist _).subset h))
      (Nat.lt_of_le_of_lt (cText_sublist _).length_le (value_length_lt t))
  obtain ⟨rest, hrest⟩ : ∃ rest, hapdText env band table ts =
      (hapdHeader env ++ loopText env false false table before') ++
        (configLine (cString name) (cText t.value) ++ rest) := by
    rw [hapdText, hsplit, loopText_append, loopText, written_cred env _ _ _ hid, List.append_assoc,
      List.append_assoc, List.append_assoc, ← List.append_assoc (hapdHeader env)]
    exact ⟨_, rfl⟩
  have hline : configLine (cString name) (cText t.value) ++ rest =
      cString tok ++ (cText t.value ++ newline :: rest) := by
    rw [configLine, htok]
    simp
  rw [hrest, hline]
  exact credValue_iff hbefore hnewline hne hclean.1 (hread rest)

/-! ## The settings of wpa_supplicant -/

theorem whole_quotedLine (name value : List UInt8) : Whole (quotedLine name value) :=
  .inr ⟨name ++ equalsSign :: quote :: value ++ [quote], by simp [quotedLine]⟩

theorem whole_wpasGlobalLine (t : PlacedTlv) : Whole (wpasGlobalLine t) := by
  unfold wpasGlobalLine
  cases findWpasGlobalConfigName t.id with
  | none => exact terminated_nil
  | some cfg => exact whole_configLine _ _

theorem whole_wpasNetworkLine (t : PlacedTlv) : Whole (wpasNetworkLine t) := by
  unfold wpasNetworkLine
  split
  · exact terminated_ite (whole_quotedLine _ _) (whole_configLine _ _)
  · exact terminated_nil

/-- What stands before the settings of the network from a TLV on. -/
def wpasBefore (ts before : List PlacedTlv) : List UInt8 :=
  wpasHeader ++ ts.flatMap wpasGlobalLine ++ textLine "network=\x7b" ++ before.flatMap wpasNetworkLine

theorem whole_wpasBefore (ts before : List PlacedTlv) : Whole (wpasBefore ts before) := by
  have hheader : Whole wpasHeader :=
    ((whole_textLine _).append (whole_textLine _)).append (whole_textLine _)
  exact ((hheader.append (terminated_flatMap fun t _ => whole_wpasGlobalLine t)).append
    (whole_textLine _)).append (terminated_flatMap fun t _ => whole_wpasNetworkLine t)

/-- The credentials of a station are settings of the network, and whether their
values are quoted. -/
def stautNames : List (UInt16 × String × Bool) :=
  [(tlvStaSsid, "ssid", true), (tlvPsk, "psk", true), (tlvKeyMgmt, "key_mgmt", false)]

theorem wpasNetworkLine_cred {quoted : Bool} (hid : (t.id, name, quoted) ∈ stautNames) :
    wpasNetworkLine t = if quoted then quotedLine (cString name) (cText t.value)
      else configLine (cString name) (cText t.value) := by
  have hnames : ∀ item ∈ stautNames, item.1 ≠ tlvCaCert ∧ item.1 ≠ tlvServerCert ∧
      findWpasGlobalConfigName item.1 = none ∧
      findTlvConfig item.1 = some ⟨item.1, cString item.2.1, item.2.2⟩ := by decide +kernel
  obtain ⟨hca, hserver, hglobal, hcfg⟩ := hnames _ hid
  have hvalue : wpasValue t = cText t.value := by
    rw [wpasValue, if_neg fun h => hca h.1, if_neg hserver]
  unfold wpasNetworkLine
  simp only [hglobal, hcfg, hvalue]

/-- A credential in the text of wpa_supplicant. -/
theorem wpas_cred_iff (hsplit : ts = before' ++ t :: after) {quoted : Bool}
    (hid : (t.id, name, quoted) ∈ stautNames) (hclean : newline ∉ t.value ∧ quote ∉ t.value)
    {tok : String} (htok : cString tok = cString name ++ [equalsSign]) :
    credValue (generateWpasConfig ts) tok = .ok t.value ↔
      Undisturbed (wpasBefore ts before') tok t.value := by
  have hnames : ∀ item ∈ stautNames, newline ∉ cString item.2.1 ++ [equalsSign] := by decide
  have hnewline : newline ∉ cString tok := htok ▸ hnames _ hid
  have hne : cString tok ≠ [] := by
    rw [htok]
    simp
  have hline : newline ∉ cText t.value := fun h => hclean.1 ((cText_sublist _).subset h)
  have hquote : quote ∉ cText t.value := fun h => hclean.2 ((cText_sublist _).subset h)
  have hlen : (cText t.value).length < credSize :=
    Nat.lt_of_le_of_lt (cText_sublist _).length_le (value_length_lt t)
  obtain ⟨rest, hrest⟩ : ∃ rest, generateWpasConfig ts =
      wpasBefore ts before' ++ (wpasNetworkLine t ++ rest) := by
    have hlines : ts.flatMap wpasNetworkLine = before'.flatMap wpasNetworkLine ++
        (wpasNetworkLine t ++ after.flatMap wpasNetworkLine) := by
      rw [hsplit, List.flatMap_append, List.flatMap_cons]
    refine ⟨after.flatMap wpasNetworkLine ++ wpasPmfLine (wpasFlags ts) ++ textLine "\x7d", ?_⟩
    rw [generateWpasConfig, wpasBefore, hlines]
    simp only [List.append_assoc]
  rw [hrest, wpasNetworkLine_cred hid]
  cases quoted
  · have hcut : configLine (cString name) (cText t.value) ++ rest =
        cString tok ++ (cText t.value ++ newline :: rest) := by
      rw [configLine, htok]
      simp
    rw [if_neg Bool.false_ne_true, hcut]
    exact credValue_iff (whole_wpasBefore ts before') hnewline hne hclean.1
      (readSetting_line hline hquote hlen rest)
  · have hcut : quotedLine (cString name) (cText t.value) ++ rest =
        cString tok ++ (quote :: (cText t.value ++ quote :: newline :: rest)) := by
      rw [quotedLine, htok]
      simp
    rw [if_pos rfl, hcut]
    exact credValue_iff (whole_wpasBefore ts before') hnewline hne hclean.1
      (readSetting_quoted hquote hlen _)

/-! ## The answer -/

theorem readCreds_three (data : List UInt8) (a b c : CfgCred) (x y z : List UInt8) :
    readCreds data [a, b, c] = .ok [x, y, z] ↔
      credValue data a.tok = .ok x ∧ credValue data b.tok = .ok y ∧ credValue data c.tok = .ok z := by
  simp only [readCreds, Py.bind_eq_ok]
  constructor
  · rintro ⟨x', hx, rest, ⟨y', hy, rest', ⟨z', hz, last, hlast, hrest'⟩, hrest⟩, h⟩
    obtain rfl := Except.ok.inj hlast
    obtain rfl := Except.ok.inj hrest'
    obtain rfl := Except.ok.inj hrest
    have hvals := Except.ok.inj h
    simp only [List.cons.injEq] at hvals
    obtain ⟨rfl, rfl, rfl, -⟩ := hvals
    exact ⟨hx, hy, hz⟩
  · rintro ⟨hx, hy, hz⟩
    exact ⟨x, hx, _, ⟨y, hy, _, ⟨z, hz, _, rfl, rfl⟩, rfl⟩, rfl⟩

/-- The answer as the TLVs that are filled. -/
theorem credReply_eq (req : PacketWrapper) (status : UInt8) (message : String)
    {creds : List (CfgCred × List UInt8)} (hcount : creds.length ≤ 126) :
    credReply req status message creds = .ok
      ⟨filledHdr apiCmdResponse.toNat req.hdr.seq.toNat,
        (FillCall.byte tlvStatus.toNat status).tlv ::
          (FillCall.bytes tlvMessage.toNat (cString message)).tlv ::
          creds.map fun cred => (FillCall.bytes cred.1.tid.toNat cred.2).tlv,
        creds.length + 2⟩ := by
  rw [credReply, fillWrapper_eq (by
    rw [List.length_cons, List.length_cons, List.length_map]
    unfold tlvNumMax
    omega)]
  simp only [List.map_cons, List.map_map, List.length_cons, List.length_map]
  rfl

/-- The answer shows what has been read. -/
theorem vals_of_credReply {req : PacketWrapper} {status : UInt8} {message : String}
    {creds : List CfgCred} {vals vals' : List (List UInt8)} (hcount : creds.length ≤ 126)
    (hvals : vals.length = creds.length) (hvals' : vals'.length = creds.length)
    (h : credReply req status message (creds.zip vals) =
      credReply req status message (creds.zip vals')) : vals = vals' := by
  have hlen : ∀ l : List (List UInt8), (creds.zip l).length ≤ 126 := by
    intro l
    rw [List.length_zip]
    omega
  have hzip : ∀ l : List (List UInt8), l.length = creds.length →
      ((creds.zip l).map fun cred => (FillCall.bytes cred.1.tid.toNat cred.2).tlv).map
        TlvHdr.value = l := by
    intro l hl
    rw [List.map_map]
    exact List.map_snd_zip (Nat.le_of_eq hl)
  rw [credReply_eq _ _ _ (hlen vals), credReply_eq _ _ _ (hlen vals')] at h
  have htlvs := congrArg PacketWrapper.tlv (Except.ok.inj h)
  have hrest := (List.cons_eq_cons.mp (List.cons_eq_cons.mp htlvs).2).2
  rw [← hzip vals hvals, hrest, hzip vals' hvals']

theorem length_of_readCreds {data : List UInt8} {creds : List CfgCred} {vals : List (List UInt8)}
    (h : readCreds data creds = .ok vals) : vals.length = creds.length := by
  induction creds generalizing vals with
  | nil =>
      obtain rfl := Except.ok.inj h
      rfl
  | cons cred creds ih =>
      obtain ⟨val, _, h⟩ := Py.bind_eq_ok.mp h
      obtain ⟨rest, hrest, h⟩ := Py.bind_eq_ok.mp h
      obtain rfl := Except.ok.inj h
      rw [List.length_cons, List.length_cons, ih hrest]

/-- The answer has given credentials exactly if they have been read. -/
theorem answerCreds_iff {req : PacketWrapper} {creds : List CfgCred} {data : List UInt8}
    {vals : List (List UInt8)} (hcount : creds.length ≤ 126)
    (hvals : vals.length = creds.length) :
    answerCreds req creds (some data) = credReply req 0x30 "OK" (creds.zip vals) ↔
      readCreds data creds = .ok vals := by
  cases hread : readCreds data creds with
  | error fault =>
      have hzip : (creds.zip vals).length ≤ 126 := by
        rw [List.length_zip]
        omega
      rw [credReply_eq _ _ _ hzip, answerCreds]
      simp only [hread, reduceCtorEq, iff_false]
      exact fun heq => by cases heq
  | ok read =>
      have hanswer : answerCreds req creds (some data) =
          credReply req 0x30 "OK" (creds.zip read) := by
        rw [answerCreds]
        simp only [hread]
        rfl
      rw [hanswer]
      constructor
      · intro heq
        rw [vals_of_credReply hcount (length_of_readCreds hread) hvals heq]
      · intro heq
        rw [Except.ok.inj heq]

end AfcDut.Conf
