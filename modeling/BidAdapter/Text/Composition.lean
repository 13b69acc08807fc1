import BidAdapter.Text.CombiningClass

/-!
# Composition

Many characters can be written as one or as a letter with marks, and marks that do not touch each other in any order.
`compose` : the one form of a text that uses the single characters where there are any, and keeps the marks in the order
of their classes.
-/

namespace BidAdapter.Text

set_option autoImplicit false

/-! ## Characters in two parts -/

/-- A character that can be written as two. -/
structure Composite where
  first : Char
  second : Char
  whole : Char
deriving DecidableEq, Repr

/-- The composites by their second character; each word is a first character and what the two become. -/
def compositeRows : Array (Nat × String) :=
  #[(0x300, "AÀ EÈ IÌ OÒ UÙ aà eè iì oò uù ÜǛ üǜ NǸ nǹ ЕЀ ИЍ еѐ иѝ ĒḔ ēḕ ŌṐ ōṑ WẀ wẁ ÂẦ âầ"),
    (0x300, "ĂẰ ăằ ÊỀ êề ÔỒ ôồ ƠỜ ơờ ƯỪ ưừ YỲ yỳ ἀἂ ἁἃ ἈἊ ἉἋ ἐἒ ἑἓ ἘἚ ἙἛ ἠἢ ἡἣ ἨἪ ἩἫ ἰἲ ἱἳ"),
    (0x300, "ἸἺ ἹἻ ὀὂ ὁὃ ὈὊ ὉὋ ὐὒ ὑὓ ὙὛ ὠὢ ὡὣ ὨὪ ὩὫ αὰ εὲ ηὴ ιὶ οὸ υὺ ωὼ ΑᾺ ΕῈ ΗῊ ᾿῍ ϊῒ ΙῚ"),
    (0x300, "῾῝ ϋῢ ΥῪ ¨῭ ΟῸ ΩῺ"),
    (0x301, "AÁ EÉ IÍ OÓ UÚ YÝ aá eé ií oó uú yý CĆ cć LĹ lĺ NŃ nń RŔ rŕ SŚ sś ZŹ zź ÜǗ üǘ"),
    (0x301, "GǴ gǵ ÅǺ åǻ ÆǼ æǽ ØǾ øǿ ¨΅ ΑΆ ΕΈ ΗΉ ΙΊ ΟΌ ΥΎ ΩΏ ϊΐ αά εέ ηή ιί ϋΰ οό υύ ωώ ϒϓ"),
    (0x301, "ГЃ КЌ гѓ кќ ÇḈ çḉ ĒḖ ēḗ ÏḮ ïḯ KḰ kḱ MḾ mḿ ÕṌ õṍ ŌṒ ōṓ PṔ pṕ ŨṸ ũṹ WẂ wẃ ÂẤ âấ"),
    (0x301, "ĂẮ ăắ ÊẾ êế ÔỐ ôố ƠỚ ơớ ƯỨ ưứ ἀἄ ἁἅ ἈἌ ἉἍ ἐἔ ἑἕ ἘἜ ἙἝ ἠἤ ἡἥ ἨἬ ἩἭ ἰἴ ἱἵ ἸἼ ἹἽ"),
    (0x301, "ὀὄ ὁὅ ὈὌ ὉὍ ὐὔ ὑὕ ὙὝ ὠὤ ὡὥ ὨὬ ὩὭ ᾿῎ ῾῞"),
    (0x302, "AÂ EÊ IÎ OÔ UÛ aâ eê iî oô uû CĈ cĉ GĜ gĝ HĤ hĥ JĴ jĵ SŜ sŝ WŴ wŵ YŶ yŷ ZẐ zẑ"),
    (0x302, "ẠẬ ạậ ẸỆ ẹệ ỌỘ ọộ"),
    (0x303, "AÃ NÑ OÕ aã nñ oõ IĨ iĩ UŨ uũ VṼ vṽ ÂẪ âẫ ĂẴ ăẵ EẼ eẽ ÊỄ êễ ÔỖ ôỗ ƠỠ ơỡ ƯỮ ưữ"),
    (0x303, "YỸ yỹ"),
    (0x304, "AĀ aā EĒ eē IĪ iī OŌ oō UŪ uū ÜǕ üǖ ÄǞ äǟ ȦǠ ȧǡ ÆǢ æǣ ǪǬ ǫǭ ÖȪ öȫ ÕȬ õȭ ȮȰ ȯȱ"),
    (0x304, "YȲ yȳ ИӢ иӣ УӮ уӯ GḠ gḡ ḶḸ ḷḹ ṚṜ ṛṝ αᾱ ΑᾹ ιῑ ΙῙ υῡ ΥῩ"),
    (0x306, "AĂ aă EĔ eĕ GĞ gğ IĬ iĭ OŎ oŏ UŬ uŭ УЎ ИЙ ий уў ЖӁ жӂ АӐ аӑ ЕӖ еӗ ȨḜ ȩḝ ẠẶ ạặ"),
    (0x306, "αᾰ ΑᾸ ιῐ ΙῘ υῠ ΥῨ"),
    (0x307, "CĊ cċ EĖ eė GĠ gġ Iİ ZŻ zż AȦ aȧ OȮ oȯ BḂ bḃ DḊ dḋ FḞ fḟ HḢ hḣ MṀ mṁ NṄ nṅ PṖ"),
    (0x307, "pṗ RṘ rṙ SṠ sṡ ŚṤ śṥ ŠṦ šṧ ṢṨ ṣṩ TṪ tṫ WẆ wẇ XẊ xẋ YẎ yẏ ſẛ 𐗒𐗉 𐗚𐗤"),
    (0x308, "AÄ EË IÏ OÖ UÜ aä eë iï oö uü yÿ YŸ ΙΪ ΥΫ ιϊ υϋ ϒϔ ЕЁ ІЇ её ії АӒ аӓ ӘӚ әӛ ЖӜ"),
    (0x308, "жӝ ЗӞ зӟ ИӤ иӥ ОӦ оӧ ӨӪ өӫ ЭӬ эӭ УӰ уӱ ЧӴ чӵ ЫӸ ыӹ HḦ hḧ ÕṎ õṏ ŪṺ ūṻ WẄ wẅ XẌ"),
    (0x308, "xẍ tẗ"),
    (0x309, "AẢ aả ÂẨ âẩ ĂẲ ăẳ EẺ eẻ ÊỂ êể IỈ iỉ OỎ oỏ ÔỔ ôổ ƠỞ ơở UỦ uủ ƯỬ ưử YỶ yỷ"),
    (0x30A, "AÅ aå UŮ uů wẘ yẙ"),
    (0x30B, "OŐ oő UŰ uű УӲ уӳ"),
    (0x30C, "CČ cč DĎ dď EĚ eě LĽ lľ NŇ nň RŘ rř SŠ sš TŤ tť ZŽ zž AǍ aǎ IǏ iǐ OǑ oǒ UǓ uǔ"),
    (0x30C, "ÜǙ üǚ GǦ gǧ KǨ kǩ ƷǮ ʒǯ jǰ HȞ hȟ"),
    (0x30F, "AȀ aȁ EȄ eȅ IȈ iȉ OȌ oȍ RȐ rȑ UȔ uȕ ѴѶ ѵѷ"),
    (0x311, "AȂ aȃ EȆ eȇ IȊ iȋ OȎ oȏ RȒ rȓ UȖ uȗ"),
    (0x313, "αἀ ΑἈ εἐ ΕἘ ηἠ ΗἨ ιἰ ΙἸ οὀ ΟὈ υὐ ωὠ ΩὨ ρῤ"),
    (0x314, "αἁ ΑἉ εἑ ΕἙ ηἡ ΗἩ ιἱ ΙἹ οὁ ΟὉ υὑ ΥὙ ωὡ ΩὩ ρῥ ΡῬ"),
    (0x31B, "OƠ oơ UƯ uư"),
    (0x323, "BḄ bḅ DḌ dḍ HḤ hḥ KḲ kḳ LḶ lḷ MṂ mṃ NṆ nṇ RṚ rṛ SṢ sṣ TṬ tṭ VṾ vṿ WẈ wẉ ZẒ zẓ"),
    (0x323, "AẠ aạ EẸ eẹ IỊ iị OỌ oọ ƠỢ ơợ UỤ uụ ƯỰ ưự YỴ yỵ"),
    (0x324, "UṲ uṳ"),
    (0x325, "AḀ aḁ"),
    (0x326, "SȘ sș TȚ tț"),
    (0x327, "CÇ cç GĢ gģ KĶ kķ LĻ lļ NŅ nņ RŖ rŗ SŞ sş TŢ tţ EȨ eȩ DḐ dḑ HḨ hḩ"),
    (0x328, "AĄ aą EĘ eę IĮ iį UŲ uų OǪ oǫ"),
    (0x32D, "DḒ dḓ EḘ eḙ LḼ lḽ NṊ nṋ TṰ tṱ UṶ uṷ"),
    (0x32E, "HḪ hḫ"),
    (0x330, "EḚ eḛ IḬ iḭ UṴ uṵ"),
    (0x331, "BḆ bḇ DḎ dḏ KḴ kḵ LḺ lḻ NṈ nṉ RṞ rṟ TṮ tṯ ZẔ zẕ hẖ"),
    (0x338, "←↚ →↛ ↔↮ ⇐⇍ ⇔⇎ ⇒⇏ ∃∄ ∈∉ ∋∌ ∣∤ ∥∦ ∼≁ ≃≄ ≅≇ ≈≉ =≠ ≡≢ ≍≭ <≮ >≯ ≤≰ ≥≱ ≲≴ ≳≵ ≶≸ ≷≹"),
    (0x338, "≺⊀ ≻⊁ ⊂⊄ ⊃⊅ ⊆⊈ ⊇⊉ ⊢⊬ ⊨⊭ ⊩⊮ ⊫⊯ ≼⋠ ≽⋡ ⊑⋢ ⊒⋣ ⊲⋪ ⊳⋫ ⊴⋬ ⊵⋭"),
    (0x342, "ἀἆ ἁἇ ἈἎ ἉἏ ἠἦ ἡἧ ἨἮ ἩἯ ἰἶ ἱἷ ἸἾ ἹἿ ὐὖ ὑὗ ὙὟ ὠὦ ὡὧ ὨὮ ὩὯ αᾶ ¨῁ ηῆ ᾿῏ ιῖ ϊῗ ῾῟"),
    (0x342, "υῦ ϋῧ ωῶ"),
    (0x345, "ἀᾀ ἁᾁ ἂᾂ ἃᾃ ἄᾄ ἅᾅ ἆᾆ ἇᾇ Ἀᾈ Ἁᾉ Ἂᾊ Ἃᾋ Ἄᾌ Ἅᾍ Ἆᾎ Ἇᾏ ἠᾐ ἡᾑ ἢᾒ ἣᾓ ἤᾔ ἥᾕ ἦᾖ ἧᾗ Ἠᾘ Ἡᾙ"),
    (0x345, "Ἢᾚ Ἣᾛ Ἤᾜ Ἥᾝ Ἦᾞ Ἧᾟ ὠᾠ ὡᾡ ὢᾢ ὣᾣ ὤᾤ ὥᾥ ὦᾦ ὧᾧ Ὠᾨ Ὡᾩ Ὢᾪ Ὣᾫ Ὤᾬ Ὥᾭ Ὦᾮ Ὧᾯ ὰᾲ αᾳ άᾴ ᾶᾷ"),
    (0x345, "Αᾼ ὴῂ ηῃ ήῄ ῆῇ Ηῌ ὼῲ ωῳ ώῴ ῶῷ Ωῼ"),
    (0x653, "اآ"),
    (0x654, "اأ وؤ يئ ەۀ ہۂ ےۓ"),
    (0x655, "اإ"),
    (0x93C, "नऩ रऱ ळऴ"),
    (0x9BE, "\u09c7\u09cb"),
    (0x9D7, "\u09c7\u09cc"),
    (0xB3E, "\u0b47\u0b4b"),
    (0xB56, "\u0b47\u0b48"),
    (0xB57, "\u0b47\u0b4c"),
    (0xBBE, "\u0bc6\u0bca \u0bc7\u0bcb"),
    (0xBD7, "ஒஔ \u0bc6\u0bcc"),
    (0xC56, "\u0c46\u0c48"),
    (0xCC2, "\u0cc6\u0cca"),
    (0xCD5, "\u0cbf\u0cc0 \u0cc6\u0cc7 \u0cca\u0ccb"),
    (0xCD6, "\u0cc6\u0cc8"),
    (0xD3E, "\u0d46\u0d4a \u0d47\u0d4b"),
    (0xD57, "\u0d46\u0d4c"),
    (0xDCA, "\u0dd9\u0dda \u0ddc\u0ddd"),
    (0xDCF, "\u0dd9\u0ddc"),
    (0xDDF, "\u0dd9\u0dde"),
    (0x102E, "ဥဦ"),
    (0x1B35, "ᬅᬆ ᬇᬈ ᬉᬊ ᬋᬌ ᬍᬎ ᬑᬒ \u1b3a\u1b3b \u1b3c\u1b3d \u1b3e\u1b40 \u1b3f\u1b41"),
    (0x1B35, "\u1b42\u1b43"),
    (0x3099, "かが きぎ くぐ けげ こご さざ しじ すず せぜ そぞ ただ ちぢ つづ てで とど はば ひび ふぶ へべ ほぼ うゔ ゝゞ カガ キギ クグ ケゲ"),
    (0x3099, "コゴ サザ シジ スズ セゼ ソゾ タダ チヂ ツヅ テデ トド ハバ ヒビ フブ ヘベ ホボ ウヴ ワヷ ヰヸ ヱヹ ヲヺ ヽヾ"),
    (0x309A, "はぱ ひぴ ふぷ へぺ ほぽ ハパ ヒピ フプ ヘペ ホポ"),
    (0x110BA, "𑂙𑂚 𑂛𑂜 𑂥𑂫"),
    (0x11127, "𑄱𑄮 𑄲𑄯"),
    (0x1133E, "𑍇𑍋"),
    (0x11357, "𑍇𑍌"),
    (0x113B8, "𑏅𑎸"),
    (0x113BB, "𑎄𑎅"),
    (0x113C2, "𑎋𑎎 𑏅𑏂"),
    (0x113C9, "𑎂𑎃 𑎐𑎑 𑏅𑏉"),
    (0x114B0, "𑒹𑒼"),
    (0x114BA, "𑒹𑒻"),
    (0x114BD, "𑒹𑒾"),
    (0x115AF, "𑖸𑖺 𑖹𑖻"),
    (0x11930, "𑤵𑤸"),
    (0x1611E, "𖄡𖄞"),
    (0x1611F, "𖄦 𖄩𖄤 𖄡𖄦 𖄢𖄧"),
    (0x16120, "𖄨 𖄡𖄨"),
    (0x16129, "𖄡𖄩"),
    (0x16D67, "𖵨𖵧 𖵣𖵩 𖵩𖵪")]

def composites : List Composite :=
  compositeRows.toList.flatMap fun (second, words) => (words.splitOn " ").filterMap fun word =>
    match word.toList with
    | [first, whole] => some ⟨first, Char.ofNat second, whole⟩
    | _ => none

/-! ## Hangul -/

/-- A consonant and a vowel, or the two and a final consonant, as one syllable. -/
def syllable? (a b : Char) : Option Char :=
  let (m, n) := (a.toNat, b.toNat)
  if 0x1100 ≤ m && m < 0x1113 && 0x1161 ≤ n && n < 0x1176 then
    some (Char.ofNat (0xAC00 + ((m - 0x1100) * 21 + (n - 0x1161)) * 28))
  else if 0xAC00 ≤ m && m < 0xD7A4 && (m - 0xAC00) % 28 == 0 && 0x11A7 < n && n < 0x11C3 then
    some (Char.ofNat (m + (n - 0x11A7)))
  else none

/-- A syllable as a syllable without a final consonant and that consonant, or as a consonant and a vowel. -/
def jamo? (c : Char) : Option (Char × Char) :=
  if 0xAC00 ≤ c.toNat && c.toNat < 0xD7A4 then
    let i := c.toNat - 0xAC00
    if i % 28 == 0 then some (Char.ofNat (0x1100 + i / 588), Char.ofNat (0x1161 + i % 588 / 28))
    else some (Char.ofNat (0xAC00 + i / 28 * 28), Char.ofNat (0x11A7 + i % 28))
  else none

/-! ## Decomposition -/

/-- The two parts of a character. All composites lie behind the signs of Latin. -/
def parts? (c : Char) : Option (Char × Char) :=
  if c.toNat < 0xC0 then none
  else (jamo? c).or ((composites.find? (·.whole == c)).map fun k => (k.first, k.second))

/-- The one character for two. The second lies among the combining marks or behind them. -/
def whole? (a b : Char) : Option Char :=
  if b.toNat < 0x300 then none
  else (syllable? a b).or ((composites.find? fun k => k.first == a && k.second == b).map (·.whole))

/-- The parts of a character, those of its first part in their place, to a depth. -/
def decomposeTo : Nat → Char → List Char
  | 0, c => [c]
  | depth + 1, c =>
    match parts? c with
    | some (a, b) => decomposeTo depth a ++ [b]
    | none => [c]

/-- The parts of a character. No character takes more than three steps. -/
def decompose (c : Char) : List Char := decomposeTo 3 c

/-- Put a character before a text whose marks are in order: a mark moves behind those of lower classes. -/
def insertMark (c : Char) : List Char → List Char
  | [] => [c]
  | d :: ds =>
    if 0 < combiningClass d && combiningClass d < combiningClass c then d :: insertMark c ds else c :: d :: ds

/-- Put the marks behind each letter in the order of their classes; those of one class keep theirs. -/
def orderMarks (cs : List Char) : List Char := cs.foldr insertMark []

/-! ## Composition -/

/-- Compose a text behind a character that marks may join, and the marks that have not joined it. What has no higher
class than the last of these marks stays apart too. -/
def composeBehind (base : Char) (apart : List Char) : List Char → List Char
  | [] => base :: apart
  | c :: cs =>
    let free := apart.getLast?.all fun d => combiningClass d < combiningClass c
    match if free then whole? base c else none with
    | some whole => composeBehind whole apart cs
    | none =>
      if combiningClass c = 0 then base :: apart ++ composeBehind c [] cs
      else composeBehind base (apart ++ [c]) cs

/-- Compose a text of single parts whose marks are in order. Marks at the start have nothing to join. -/
def composeParts : List Char → List Char
  | [] => []
  | c :: cs => if combiningClass c = 0 then composeBehind c [] cs else c :: composeParts cs

/-- The composed form of a text. -/
def compose (cs : List Char) : List Char := composeParts (orderMarks (cs.flatMap decompose))

end BidAdapter.Text
