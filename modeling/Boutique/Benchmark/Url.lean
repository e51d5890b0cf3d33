import Boutique.Benchmark.Python

/-!
# The addresses of a benchmark

`normalize_http_url`, `normalize_target_url` and `normalize_metrics_url` of `benchmarkservice/config.py`, with
what they use of `urllib.parse.urlparse`.  A normalized address has no slashes at its end.  Normalizing it
again gives the same address if there is no white space before the slashes that were removed.
-/

namespace Boutique.Benchmark.Workers

/-! ## Parts of an address -/

/-- The parts of an address that are tested. -/
structure Url where
  scheme : List Char
  netloc : List Char
  query : List Char
  fragment : List Char

/-- What follows the first occurrence of a character, as `str.partition` splits. -/
def after (c : Char) (chars : List Char) : List Char := (chars.dropWhile (· != c)).drop 1

/-- The characters of an address that `urlparse` looks at: not the control characters and spaces at its
beginning, and not the tabs and line ends. -/
def clean (url : List Char) : List Char :=
  (url.dropWhile fun c => c.val ≤ 0x20).filter fun c => c != '\t' && c != '\r' && c != '\n'

/-- The characters of a scheme. -/
def isSchemeChar (c : Char) : Bool := c.isAlphanum || c == '+' || c == '-' || c == '.'

/-- The test of a scheme. -/
def isScheme : List Char → Bool
  | [] => false
  | c :: chars => c.isAlpha && (c :: chars).all isSchemeChar

/-- The scheme and the rest of an address. -/
def splitScheme (url : List Char) : List Char × List Char :=
  match url.dropWhile (· != ':') with
  | [] => ([], url)
  | _ :: rest =>
    if isScheme (url.takeWhile (· != ':')) then ((url.takeWhile (· != ':')).map Char.toLower, rest)
    else ([], url)

/-- The characters of a network location. -/
def isNetlocChar (c : Char) : Bool := !(c == '/' || c == '?' || c == '#')

/-- `_splitnetloc`, for an address that begins with two slashes. -/
def splitNetloc (url : List Char) : List Char × List Char :=
  if url.take 2 = ['/', '/'] then
    ((url.drop 2).takeWhile isNetlocChar, (url.drop 2).dropWhile isNetlocChar)
  else ([], url)

/-- The parts of an address. -/
def Url.ofChars (url : List Char) : Url :=
  let (scheme, rest) := splitScheme (clean url)
  let (netloc, path) := splitNetloc rest
  { scheme, netloc, query := after '?' (path.takeWhile (· != '#')), fragment := after '#' path }

variable (netlocError : List Char → Option String)

/-- `urlparse`.  The check of brackets and of the normal form of a network location is a parameter; a
location that does not pass it is a `ValueError` with a text. -/
def urlparse (url : List Char) : Except String Url :=
  match netlocError (Url.ofChars url).netloc with
  | some text => .error text
  | none => .ok (Url.ofChars url)

/-- The part of a network location before the last `@`. -/
def Url.userinfo (url : Url) : List Char :=
  ((url.netloc.reverse.dropWhile (· != '@')).drop 1).reverse

/-- `username`. -/
def Url.username (url : Url) : List Char := url.userinfo.takeWhile (· != ':')

/-- `password`. -/
def Url.password (url : Url) : List Char := after ':' url.userinfo

/-! ## Normalization -/

/-- `ConfigError`, the `ValueError` of an address that cannot be parsed, and the `OverflowError` of a number
that is too large. -/
inductive ConfigError where
  | notInteger (name : String)
  | notNumber (name : String)
  | overflow
  | notBoolean (name : String)
  | integerRange (name : String) (minimum maximum : ℤ)
  | numberRange (name : String) (minimum maximum : ℚ)
  | required (name : String)
  | notAbsolute (name : String)
  | notPlain (name : String)
  | invalidUrl (text : String)
  | application
  | workload
  | metricsRequired
  | saturationRates
  deriving DecidableEq

/-- The text of an error. -/
def ConfigError.message (language : Language) : ConfigError → String
  | .notInteger name => name ++ " must be an integer"
  | .notNumber name => name ++ " must be a number"
  | .overflow => "int too large to convert to float"
  | .notBoolean name => name ++ " must be a boolean"
  | .integerRange name minimum maximum =>
    name ++ " must be between " ++ toString minimum ++ " and " ++ toString maximum
  | .numberRange name minimum maximum =>
    name ++ " must be between " ++ language.repr minimum ++ " and " ++ language.repr maximum
  | .required name => name ++ " is required"
  | .notAbsolute name => name ++ " must be an absolute HTTP(S) URL"
  | .notPlain name => name ++ " must not contain credentials, a query, or a fragment"
  | .invalidUrl text => text
  | .application => "APPLICATION_TYPE must be GRPC or NATS"
  | .workload => "workload must be closed, open, saturation, or fault_tolerance"
  | .metricsRequired => "metrics_url is required when metrics collection is enabled"
  | .saturationRates => "saturation_max_rate must be greater than or equal to saturation_start_rate"

/-- An absolute address. -/
def Url.isAbsolute (url : Url) : Bool :=
  (url.scheme == "http".toList || url.scheme == "https".toList) && url.netloc != []

/-- An address without credentials, a query and a fragment. -/
def Url.isPlain (url : Url) : Bool :=
  url.username == [] && url.password == [] && url.query == [] && url.fragment == []

/-- `normalize_http_url`. -/
def normalizeHttpUrl (value name : String) : Except ConfigError String :=
  let candidate := strip value
  if candidate = "" then .error (.required name)
  else
    match urlparse netlocError candidate.toList with
    | .error text => .error (.invalidUrl text)
    | .ok url =>
      if !url.isAbsolute then .error (.notAbsolute name)
      else if !url.isPlain then .error (.notPlain name)
      else .ok (rstripSlash candidate)

/-- `LOCAL_CLUSTER`. -/
def localCluster : String := "local"

/-- `LOCAL_TARGET_URL`. -/
def localTargetUrl : String := "http://frontend:80"

/-- `normalize_target_url`. -/
def normalizeTargetUrl (value : String) : Except ConfigError String :=
  if strip value = localCluster then .ok localTargetUrl else normalizeHttpUrl netlocError value "target_url"

/-- `normalize_metrics_url`. -/
def normalizeMetricsUrl (value : String) : Except ConfigError String :=
  if strip value = localCluster then .ok localCluster else normalizeHttpUrl netlocError value "metrics_url"

/-! ## Slashes at the end -/

variable {netlocError}

/-- An address that is accepted. -/
def Accepted (netlocError : List Char → Option String) (url : List Char) : Prop :=
  netlocError (Url.ofChars url).netloc = none ∧ (Url.ofChars url).isAbsolute = true ∧
    (Url.ofChars url).isPlain = true

/-- Nothing follows a character in a part of a text if nothing follows it in the text. -/
lemma after_eq_nil_of_append {c : Char} {chars slashes : List Char} (h : after c (chars ++ slashes) = []) :
    after c chars = [] := by
  unfold after at h ⊢
  rw [List.dropWhile_append] at h
  split_ifs at h with hempty
  · rw [List.isEmpty_iff.mp hempty]
    rfl
  · rw [List.drop_eq_nil_iff] at h ⊢
    rw [List.length_append] at h
    omega

/-- All characters are taken if as many are taken as there are. -/
lemma takeWhile_eq_self {p : Char → Bool} {chars : List Char}
    (h : (chars.takeWhile p).length = chars.length) : chars.takeWhile p = chars := by
  have hinitial : chars.takeWhile p <+: chars := List.takeWhile_prefix p
  exact hinitial.eq_of_length h

/-- The characters before a `#`, with slashes at the end. -/
lemma takeWhile_append_slashes (chars slashes : List Char) :
    ∃ end', (chars ++ slashes).takeWhile (· != '#') = chars.takeWhile (· != '#') ++ end' := by
  rw [List.takeWhile_append]
  split_ifs with hall
  · refine ⟨slashes.takeWhile (· != '#'), ?_⟩
    rw [takeWhile_eq_self hall]
  · exact ⟨[], (List.append_nil _).symm⟩

/-- Slashes are not characters of a network location. -/
lemma takeWhile_netloc_slashes {slashes : List Char} (hslashes : ∀ c ∈ slashes, c = '/') :
    slashes.takeWhile isNetlocChar = [] ∧ slashes.dropWhile isNetlocChar = slashes := by
  cases slashes with
  | nil => exact ⟨rfl, rfl⟩
  | cons c slashes =>
    rw [hslashes c List.mem_cons_self]
    exact ⟨rfl, rfl⟩

/-- The network location of an address that begins with two slashes ends before the slashes at its end. -/
lemma takeWhile_netloc_append {slashes : List Char} (hslashes : ∀ c ∈ slashes, c = '/')
    (rest : List Char) :
    (rest ++ slashes).takeWhile isNetlocChar = rest.takeWhile isNetlocChar ∧
      (rest ++ slashes).dropWhile isNetlocChar = rest.dropWhile isNetlocChar ++ slashes := by
  obtain ⟨htake, hdrop⟩ := takeWhile_netloc_slashes hslashes
  rw [List.takeWhile_append, List.dropWhile_append, htake, hdrop, List.append_nil]
  constructor
  · split_ifs with hall
    · exact (takeWhile_eq_self hall).symm
    · rfl
  · split_ifs with hempty
    · rw [List.isEmpty_iff.mp hempty, List.nil_append]
    · rfl

/-- Slashes at the end do not belong to a network location. -/
lemma splitNetloc_append {slashes : List Char} (hslashes : ∀ c ∈ slashes, c = '/') (url : List Char)
    (hnetloc : (splitNetloc (url ++ slashes)).1 ≠ []) :
    splitNetloc (url ++ slashes) = ((splitNetloc url).1, (splitNetloc url).2 ++ slashes) := by
  rcases Nat.lt_or_ge url.length 2 with hshort | hlong
  · -- Two slashes at the beginning with nothing but slashes after them.
    refine absurd ?_ hnetloc
    rw [splitNetloc]
    split_ifs
    · rw [List.drop_append, List.drop_eq_nil_of_le (by omega), List.nil_append]
      exact (takeWhile_netloc_slashes fun c hc => hslashes c (List.mem_of_mem_drop hc)).1
    · rfl
  · obtain ⟨htake, hdrop⟩ := takeWhile_netloc_append hslashes (url.drop 2)
    rw [splitNetloc, splitNetloc, List.take_append_of_le_length hlong,
      List.drop_append_of_le_length hlong]
    split_ifs
    · rw [htake, hdrop]
    · rfl

/-- Slashes at the end do not belong to a scheme. -/
lemma splitScheme_append {slashes : List Char} (hslashes : ∀ c ∈ slashes, c = '/') (url : List Char)
    (hscheme : (splitScheme (url ++ slashes)).1 ≠ []) :
    splitScheme (url ++ slashes) = ((splitScheme url).1, (splitScheme url).2 ++ slashes) := by
  have hcolon : slashes.dropWhile (· != ':') = [] :=
    List.dropWhile_eq_nil_iff.mpr fun c hc => by rw [hslashes c hc]; rfl
  cases hdrop : url.dropWhile (· != ':') with
  | nil =>
    -- There is no colon.
    refine absurd ?_ hscheme
    rw [splitScheme, List.dropWhile_append, hdrop, List.isEmpty_nil, if_pos rfl, hcolon]
  | cons c rest =>
    have htake : (url ++ slashes).takeWhile (· != ':') = url.takeWhile (· != ':') := by
      rw [List.takeWhile_append, if_neg]
      intro hlength
      have heq := List.takeWhile_append_dropWhile (p := fun c => c != ':') (l := url)
      rw [takeWhile_eq_self hlength, hdrop] at heq
      exact List.cons_ne_nil c rest (List.append_right_eq_self.mp heq)
    have hdrop' : (url ++ slashes).dropWhile (· != ':') = c :: (rest ++ slashes) := by
      rw [List.dropWhile_append, hdrop]
      rfl
    simp only [splitScheme, htake, hdrop', hdrop]
    split_ifs
    · rfl
    · rfl

/-- Slashes at the end are looked at. -/
lemma clean_append {slashes : List Char} (hslashes : ∀ c ∈ slashes, c = '/') (url : List Char)
    (hscheme : (splitScheme (clean (url ++ slashes))).1 ≠ []) :
    clean (url ++ slashes) = clean url ++ slashes := by
  have hfilter : slashes.filter (fun c => c != '\t' && c != '\r' && c != '\n') = slashes :=
    List.filter_eq_self.mpr fun c hc => by rw [hslashes c hc]; rfl
  unfold clean at hscheme ⊢
  rw [List.dropWhile_append] at hscheme ⊢
  split_ifs at hscheme ⊢ with hempty
  · -- Nothing but slashes is looked at.
    refine absurd ?_ hscheme
    rw [splitScheme, List.dropWhile_eq_nil_iff.mpr]
    intro c hc
    have hmem := (List.dropWhile_sublist _).subset (List.mem_filter.mp hc).1
    rw [hslashes c hmem]
    rfl
  · rw [List.filter_append, hfilter]

/-- The parts of an address with slashes at its end. -/
lemma ofChars_append {slashes : List Char} (hslashes : ∀ c ∈ slashes, c = '/') {url : List Char}
    (h : (Url.ofChars (url ++ slashes)).isAbsolute = true) :
    ∃ path, Url.ofChars url = {
        scheme := (Url.ofChars (url ++ slashes)).scheme
        netloc := (Url.ofChars (url ++ slashes)).netloc
        query := after '?' (path.takeWhile (· != '#')), fragment := after '#' path } ∧
      (Url.ofChars (url ++ slashes)).query = after '?' ((path ++ slashes).takeWhile (· != '#')) ∧
      (Url.ofChars (url ++ slashes)).fragment = after '#' (path ++ slashes) := by
  simp only [Url.isAbsolute, Url.ofChars, Bool.and_eq_true, bne_iff_ne] at h
  obtain ⟨hscheme, hnetloc⟩ := h
  have hne : (splitScheme (clean (url ++ slashes))).1 ≠ [] := by
    intro hnil
    rw [hnil] at hscheme
    exact absurd hscheme (by decide)
  have hclean := clean_append hslashes url hne
  rw [hclean] at hne hnetloc
  have hsplit := splitScheme_append hslashes (clean url) hne
  rw [hsplit] at hnetloc
  have hloc := splitNetloc_append hslashes (splitScheme (clean url)).2 hnetloc
  refine ⟨(splitNetloc (splitScheme (clean url)).2).2, ?_⟩
  simp only [Url.ofChars, hclean, hsplit, hloc, and_self]

/-- An address is accepted without the slashes at its end. -/
lemma Accepted.of_append {slashes : List Char} (hslashes : ∀ c ∈ slashes, c = '/') {url : List Char}
    (h : Accepted netlocError (url ++ slashes)) : Accepted netlocError url := by
  obtain ⟨hnetloc, habsolute, hplain⟩ := h
  obtain ⟨path, hurl, hquery, hfragment⟩ := ofChars_append hslashes habsolute
  simp only [Url.isPlain, Bool.and_eq_true, beq_iff_eq] at hplain
  obtain ⟨⟨⟨husername, hpassword⟩, hnoQuery⟩, hnoFragment⟩ := hplain
  rw [hquery] at hnoQuery
  rw [hfragment] at hnoFragment
  obtain ⟨chars, htake⟩ := takeWhile_append_slashes path slashes
  rw [htake] at hnoQuery
  refine ⟨?_, ?_, ?_⟩
  · rw [hurl]
    exact hnetloc
  · rw [hurl]
    exact habsolute
  · rw [hurl]
    simp only [Url.isPlain, Bool.and_eq_true, beq_iff_eq]
    exact ⟨⟨⟨husername, hpassword⟩, after_eq_nil_of_append hnoQuery⟩, after_eq_nil_of_append hnoFragment⟩

/-! ## Normalizing again -/

/-- What a normalization accepts. -/
lemma normalizeHttpUrl_ok_iff {value name normalized : String} :
    normalizeHttpUrl netlocError value name = .ok normalized ↔
      strip value ≠ "" ∧ Accepted netlocError (strip value).toList ∧
        rstripSlash (strip value) = normalized := by
  simp only [normalizeHttpUrl, urlparse, Accepted]
  split_ifs with hempty
  · simp [hempty]
  · cases hnetloc : netlocError (Url.ofChars (strip value).toList).netloc with
    | some text => simp
    | none =>
      cases habsolute : (Url.ofChars (strip value).toList).isAbsolute
      · simp [habsolute]
      · cases hplain : (Url.ofChars (strip value).toList).isPlain
        · simp [habsolute, hplain]
        · simp [habsolute, hplain, hempty]

/-- A text is its part without the slashes at its end, with slashes. -/
lemma rstripSlash_append (s : String) :
    ∃ slashes : List Char, s.toList = (rstripSlash s).toList ++ slashes ∧ ∀ c ∈ slashes, c = '/' := by
  refine ⟨s.toList.rtakeWhile (· == '/'), ?_, fun c hc => ?_⟩
  · rw [rstripSlash, String.toList_ofList]
    exact (List.rdropWhile_append_rtakeWhile ..).symm
  · have hslash := List.mem_rtakeWhile_imp (p := fun c => c == '/') hc
    exact eq_of_beq hslash

/-- Slashes at the end are removed once. -/
lemma rstripSlash_idem (s : String) : rstripSlash (rstripSlash s) = rstripSlash s := by
  simp [rstripSlash, dropEnd, List.rdropWhile_idempotent]

/-- There is no white space around a text that is left when it is removed. -/
lemma strip_eq_of_rstripSlash {s : String} (h : rstripSlash (strip s) = s) : strip s = s := by
  have hinitial : s.toList <+: (strip s).toList := by
    have hlist : (rstripSlash (strip s)).toList <+: (strip s).toList := by
      rw [rstripSlash, String.toList_ofList]
      exact List.rdropWhile_prefix _ _
    rwa [h] at hlist
  have hsublist : (strip s).toList.length ≤ s.toList.length := by
    rw [strip, String.toList_ofList]
    have hend : dropEnd isSpace (s.toList.dropWhile isSpace) <+: s.toList.dropWhile isSpace :=
      List.rdropWhile_prefix _ _
    exact (hend.sublist.trans (List.dropWhile_sublist _)).length_le
  exact String.toList_inj.mp (hinitial.eq_of_length (le_antisymm hinitial.length_le hsublist)).symm

/-- An accepted address is not empty. -/
lemma Accepted.ne_empty {s : String} (h : Accepted netlocError s.toList) : s ≠ "" := by
  rintro rfl
  have habsolute := h.2.1
  revert habsolute
  decide

/-- A normalized address is normalized to itself if and only if there is no white space around it. -/
lemma normalizeHttpUrl_again {value name normalized : String}
    (h : normalizeHttpUrl netlocError value name = .ok normalized) :
    normalizeHttpUrl netlocError normalized name = .ok normalized ↔ strip normalized = normalized := by
  obtain ⟨hempty, haccepted, rfl⟩ := normalizeHttpUrl_ok_iff.mp h
  rw [normalizeHttpUrl_ok_iff]
  constructor
  · rintro ⟨-, -, hagain⟩
    exact strip_eq_of_rstripSlash hagain
  · intro hstrip
    obtain ⟨slashes, happend, hslashes⟩ := rstripSlash_append (strip value)
    rw [happend] at haccepted
    have hagain := haccepted.of_append hslashes
    rw [hstrip]
    exact ⟨hagain.ne_empty, hagain, rstripSlash_idem _⟩

/-- The name of the local cluster is not an address. -/
lemma not_accepted_localCluster : ¬ Accepted netlocError localCluster.toList := by
  rintro ⟨-, habsolute, -⟩
  revert habsolute
  decide

/-- The address of the local target is accepted. -/
lemma normalizeTargetUrl_local (hlocal : netlocError "frontend:80".toList = none) :
    normalizeTargetUrl netlocError localTargetUrl = .ok localTargetUrl := by
  have hstrip : strip localTargetUrl = localTargetUrl := by decide
  have hparts : (Url.ofChars localTargetUrl.toList).netloc = "frontend:80".toList := by decide
  rw [normalizeTargetUrl, hstrip, if_neg (by decide), normalizeHttpUrl_ok_iff, hstrip]
  refine ⟨by decide, ⟨?_, by decide, by decide⟩, by decide⟩
  rw [hparts]
  exact hlocal

/-- A normalized target is normalized to itself if and only if there is no white space around it. -/
lemma normalizeTargetUrl_again (hlocal : netlocError "frontend:80".toList = none) {value normalized : String}
    (h : normalizeTargetUrl netlocError value = .ok normalized) :
    normalizeTargetUrl netlocError normalized = .ok normalized ↔ strip normalized = normalized := by
  rw [normalizeTargetUrl] at h
  split_ifs at h with hcluster
  · cases h
    exact iff_of_true (normalizeTargetUrl_local hlocal) (by decide)
  · have hagain := normalizeHttpUrl_again h
    rw [normalizeTargetUrl]
    split_ifs with hnormalized
    · refine iff_of_false ?_ ?_
      · intro heq
        cases heq
        exact absurd hnormalized (by decide)
      · intro hstrip
        have haccepted := (normalizeHttpUrl_ok_iff.mp (hagain.mpr hstrip)).2.1
        rw [hnormalized] at haccepted
        exact not_accepted_localCluster haccepted
    · exact hagain

/-- A normalized metrics address is normalized to itself if and only if there is no white space around
it. -/
lemma normalizeMetricsUrl_again {value normalized : String}
    (h : normalizeMetricsUrl netlocError value = .ok normalized) :
    normalizeMetricsUrl netlocError normalized = .ok normalized ↔ strip normalized = normalized := by
  rw [normalizeMetricsUrl] at h
  split_ifs at h with hcluster
  · cases h
    exact iff_of_true (if_pos (by decide)) (by decide)
  · have hagain := normalizeHttpUrl_again h
    rw [normalizeMetricsUrl]
    split_ifs with hnormalized
    · rw [hnormalized, Except.ok.injEq]
    · exact hagain

/-- A normalized metrics address is not blank. -/
lemma strip_normalizeMetricsUrl_ne {value normalized : String}
    (h : normalizeMetricsUrl netlocError value = .ok normalized) (hstrip : strip normalized = normalized) :
    strip normalized ≠ "" := by
  have hagain := (normalizeMetricsUrl_again h).mpr hstrip
  rw [normalizeMetricsUrl] at hagain
  split_ifs at hagain with hcluster
  · rw [hcluster]
    decide
  · exact (normalizeHttpUrl_ok_iff.mp hagain).1

end Boutique.Benchmark.Workers
