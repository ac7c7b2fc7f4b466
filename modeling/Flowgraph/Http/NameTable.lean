import Flowgraph.Text.Ranges

/-! What the characters of a name stand for: most stand for themselves or for their small letters;
here are the others. -/

namespace Flowgraph.HostName

/-- Characters that vanish. -/
def ignoredRanges : List (Nat × Nat) := [
  (0xad, 0xad), (0x34f, 0x34f), (0x115f, 0x1160), (0x17b4, 0x17b5), (0x180b, 0x180f), (0x200b, 0x200b),
  (0x2060, 0x2064), (0x206a, 0x206f), (0x3164, 0x3164), (0xfe00, 0xfe0f), (0xfeff, 0xfeff), (0xffa0, 0xffa0),
  (0x1bca0, 0x1bca3), (0x1d173, 0x1d17a), (0xe0100, 0xe01ef)]

/-- Visible characters that no name has. -/
def refusedRanges : List (Nat × Nat) := [
  (0x2024, 0x2026), (0x2488, 0x249b), (0x2ff0, 0x2fff), (0x31ef, 0x31ef), (0x33c2, 0x33c2), (0x33c7, 0x33c7),
  (0x33d8, 0x33d8), (0xfe12, 0xfe12), (0xfe19, 0xfe19), (0xfe30, 0xfe30), (0xfe52, 0xfe52), (0xfffc, 0xfffd),
  (0x1f100, 0x1f100)]

/-- Letters for which no small ones stand. -/
def keptRanges : List (Nat × Nat) := [(0x13a0, 0x13f5)]

def letterRuns : List Text.Run := [
  ⟨0x13f8, 0x13f0, 6, 1⟩, ⟨0x1d31, 0x65, 5, 2⟩, ⟨0x1d34, 0x68, 4, 2⟩, ⟨0x1dae, 0x272, 4, 1⟩, ⟨0x2074, 0x34, 6, 1⟩,
  ⟨0x2080, 0x30, 10, 1⟩, ⟨0x2096, 0x6b, 4, 1⟩, ⟨0x2135, 0x5d0, 4, 1⟩, ⟨0x2460, 0x31, 9, 1⟩, ⟨0x24b6, 0x61, 26, 1⟩,
  ⟨0x24d0, 0x61, 26, 1⟩, ⟨0x313a, 0x11b0, 6, 1⟩, ⟨0x3145, 0x1109, 10, 1⟩, ⟨0x314f, 0x1161, 21, 1⟩,
  ⟨0x3178, 0x112b, 5, 1⟩, ⟨0x3269, 0x110e, 5, 1⟩, ⟨0x32e4, 0x30ca, 6, 1⟩, ⟨0x32ee, 0x30de, 5, 1⟩,
  ⟨0x32f5, 0x30e8, 6, 1⟩, ⟨0x32fb, 0x30ef, 4, 1⟩, ⟨0xab70, 0x13a0, 80, 1⟩, ⟨0xfe41, 0x300c, 4, 1⟩,
  ⟨0xff01, 0x21, 32, 1⟩, ⟨0xff21, 0x61, 26, 1⟩, ⟨0xff3b, 0x5b, 36, 1⟩, ⟨0xff85, 0x30ca, 6, 1⟩, ⟨0xff8f, 0x30de, 5, 1⟩,
  ⟨0xff96, 0x30e8, 6, 1⟩, ⟨0xffaa, 0x11b0, 6, 1⟩, ⟨0xffb5, 0x1109, 10, 1⟩, ⟨0xffc2, 0x1161, 6, 1⟩,
  ⟨0xffca, 0x1167, 6, 1⟩, ⟨0xffd2, 0x116d, 6, 1⟩, ⟨0xffe9, 0x2190, 4, 1⟩, ⟨0x1ccd6, 0x61, 26, 1⟩,
  ⟨0x1ccf0, 0x30, 10, 1⟩, ⟨0x1d400, 0x61, 26, 1⟩, ⟨0x1d41a, 0x61, 26, 1⟩, ⟨0x1d434, 0x61, 26, 1⟩,
  ⟨0x1d44e, 0x61, 13, 2⟩, ⟨0x1d44f, 0x62, 7, 4⟩, ⟨0x1d459, 0x6c, 4, 4⟩, ⟨0x1d468, 0x61, 26, 1⟩,
  ⟨0x1d482, 0x61, 26, 1⟩, ⟨0x1d49e, 0x63, 6, 4⟩, ⟨0x1d4af, 0x74, 4, 2⟩, ⟨0x1d4b6, 0x61, 4, 1⟩, ⟨0x1d4bb, 0x66, 11, 2⟩,
  ⟨0x1d4be, 0x69, 5, 4⟩, ⟨0x1d4d0, 0x61, 26, 1⟩, ⟨0x1d4ea, 0x61, 26, 1⟩, ⟨0x1d505, 0x62, 4, 4⟩, ⟨0x1d50a, 0x67, 5, 4⟩,
  ⟨0x1d50f, 0x6c, 4, 4⟩, ⟨0x1d510, 0x6d, 4, 4⟩, ⟨0x1d51e, 0x61, 26, 1⟩, ⟨0x1d538, 0x61, 4, 4⟩, ⟨0x1d53e, 0x67, 5, 4⟩,
  ⟨0x1d552, 0x61, 26, 1⟩, ⟨0x1d56c, 0x61, 26, 1⟩, ⟨0x1d586, 0x61, 26, 1⟩, ⟨0x1d5a0, 0x61, 26, 1⟩,
  ⟨0x1d5ba, 0x61, 26, 1⟩, ⟨0x1d5d4, 0x61, 26, 1⟩, ⟨0x1d5ee, 0x61, 26, 1⟩, ⟨0x1d608, 0x61, 26, 1⟩,
  ⟨0x1d622, 0x61, 26, 1⟩, ⟨0x1d63c, 0x61, 26, 1⟩, ⟨0x1d656, 0x61, 26, 1⟩, ⟨0x1d670, 0x61, 26, 1⟩,
  ⟨0x1d68a, 0x61, 26, 1⟩, ⟨0x1d6a8, 0x3b1, 17, 1⟩, ⟨0x1d6ba, 0x3c3, 7, 1⟩, ⟨0x1d6c2, 0x3b1, 17, 1⟩,
  ⟨0x1d6d4, 0x3c3, 7, 1⟩, ⟨0x1d6e2, 0x3b1, 17, 1⟩, ⟨0x1d6f4, 0x3c3, 7, 1⟩, ⟨0x1d6fc, 0x3b1, 17, 1⟩,
  ⟨0x1d70e, 0x3c3, 7, 1⟩, ⟨0x1d71c, 0x3b1, 17, 1⟩, ⟨0x1d72e, 0x3c3, 7, 1⟩, ⟨0x1d736, 0x3b1, 17, 1⟩,
  ⟨0x1d748, 0x3c3, 7, 1⟩, ⟨0x1d756, 0x3b1, 17, 1⟩, ⟨0x1d768, 0x3c3, 7, 1⟩, ⟨0x1d770, 0x3b1, 17, 1⟩,
  ⟨0x1d782, 0x3c3, 7, 1⟩, ⟨0x1d790, 0x3b1, 17, 1⟩, ⟨0x1d7a2, 0x3c3, 7, 1⟩, ⟨0x1d7aa, 0x3b1, 17, 1⟩,
  ⟨0x1d7bc, 0x3c3, 7, 1⟩, ⟨0x1d7ce, 0x30, 10, 1⟩, ⟨0x1d7d8, 0x30, 10, 1⟩, ⟨0x1d7e2, 0x30, 10, 1⟩,
  ⟨0x1d7ec, 0x30, 10, 1⟩, ⟨0x1d7f6, 0x30, 10, 1⟩, ⟨0x1e030, 0x430, 9, 1⟩, ⟨0x1e03c, 0x43e, 11, 1⟩,
  ⟨0x1e051, 0x430, 9, 1⟩, ⟨0x1e05f, 0x443, 6, 1⟩, ⟨0x1ee0a, 0x643, 4, 1⟩, ⟨0x1ee2a, 0x643, 4, 1⟩,
  ⟨0x1f130, 0x61, 26, 1⟩, ⟨0x1fbf0, 0x30, 10, 1⟩]

/-- Characters in a row from the given one on, each of which stands for one other. -/
def letterForms : List (Nat × String) := [
  (0xa0, " "), (0xaa, "a"), (0x17f, "s"), (0x2b0, "hɦjrɹɻʁwy"), (0x2e0, "ɣlsxʕ"), (0x340, "\u0300\u0301"),
  (0x374, "ʹ"), (0x37e, ";"), (0x387, "·"), (0x3d0, "βθυύϋφπ"), (0x3f0, "κρσ"), (0x3f5, "ε"), (0x3f9, "σ"),
  (0xf0c, "་"), (0x10fc, "ნ"), (0x1c80, "вдосттъѣꙋ"), (0x1d2c, "aæb"), (0x1d30, "d"), (0x1d32, "ǝ"),
  (0x1d3c, "oȣprtuwaɐɑᴂbdeəɛɜg"), (0x1d4f, "kmŋoɔᴖᴗptuᴝɯvᴥβγδφχiruvβγρφχ"), (0x1d78, "н"),
  (0x1d9b, "ɒcɕðɜfɟɡɥɨɩɪᵻʝɭᶅʟɱɰ"), (0x1db2, "ɸʂʃƫʉʊᴜʋʌzʐʑʒθ"), (0x1f71, "ά"), (0x1f73, "έ"), (0x1f75, "ή"),
  (0x1f77, "ί"), (0x1f79, "ό"), (0x1f7b, "ύ"), (0x1f7d, "ώ"), (0x1fc9, "έ"), (0x1fd3, "ΐ"), (0x1fdb, "ί"),
  (0x1fe3, "ΰ"), (0x1feb, "ύ"), (0x1ff9, "ό"), (0x2000, "           "), (0x2011, "‐"), (0x202f, " "), (0x205f, " "),
  (0x2070, "0i"), (0x207a, "+−=()n"), (0x208a, "+−=()"), (0x2090, "aeoxəh"), (0x209a, "pst"), (0x210a, "ghhhhħiill"),
  (0x2119, "pqrrr"), (0x2124, "z"), (0x2128, "z"), (0x212c, "bc"), (0x212f, "eef"), (0x2133, "mo"), (0x2139, "i"),
  (0x213c, "πγγπ∑"), (0x2145, "ddeij"), (0x216c, "lcdmi"), (0x217c, "lcdm"), (0x2329, "〈〉"), (0x24ea, "0"),
  (0x2c7c, "jv"), (0x2d6f, "ⵡ"), (0x2e9f, "母"), (0x2ef3, "龟"),
  (0x2f00, "一丨丶丿乙亅二亠人儿入八冂冖冫几凵刀力勹匕匚匸十卜卩厂厶又口囗土士夂夊夕大女子宀寸小尢尸屮山巛工己巾干幺广廴廾弋弓彐彡彳"),
  (0x2f3c, "心戈戶手支攴文斗斤方无日曰月木欠止歹殳毋比毛氏气水火爪父爻爿片牙牛犬玄玉瓜瓦甘生用田疋疒癶白皮皿目矛矢石示禸禾穴立竹米糸"),
  (0x2f78, "缶网羊羽老而耒耳聿肉臣自至臼舌舛舟艮色艸虍虫血行衣襾見角言谷豆豕豸貝赤走足身車辛辰辵邑酉釆里金長門阜隶隹雨靑非面革韋韭音"),
  (0x2fb4, "頁風飛食首香馬骨高髟鬥鬯鬲鬼魚鳥鹵鹿麥麻黃黍黑黹黽鼎鼓鼠鼻齊齒龍龜龠"), (0x3000, " "), (0x3002, "."), (0x3036, "〒"), (0x3038, "十卄卅"),
  (0x3131, "ᄀᄁᆪᄂᆬᆭᄃᄄᄅ"), (0x3140, "ᄚᄆᄇᄈᄡ"), (0x3165, "ᄔᄕᇇᇈᇌᇎᇓᇗᇙᄜᇝᇟᄝᄞᄠᄢᄣᄧᄩ"), (0x317d, "ᄲᄶᅀᅇᅌᇱᇲᅗᅘᅙᆄᆅᆈᆑᆒᆔᆞᆡ"),
  (0x3192, "一二三四上中下甲乙丙丁天地人"), (0x3244, "問幼文箏"), (0x3260, "ᄀᄂᄃᄅᄆᄇᄉᄋᄌ"), (0x326e, "가나다라마바사아자차카타파하"),
  (0x3280, "一二三四五六七八九十月火水木金土日株有社名特財祝労秘男女適優印注項休写正上中下左右医宗学監企資協夜"), (0x32d0, "アイウエオカキクケコサシスセソタチツテト"), (0x32ea, "ヒフヘホ"),
  (0x32f3, "ヤユ"), (0xa69c, "ъь"), (0xa770, "ꝯ"), (0xa7f1, "scfq"), (0xa7f8, "ħœ"), (0xab5c, "ꜧꬷɫꭒ"), (0xab69, "ʍ"),
  (0xf900, "豈更車賈滑串句龜龜契金喇奈懶癩羅蘿螺裸邏樂洛烙珞落酪駱亂卵欄爛蘭鸞嵐濫藍襤拉臘蠟廊朗浪狼郎來冷勞擄櫓爐盧老蘆虜路露魯鷺碌"),
  (0xf93c, "祿綠菉錄鹿論壟弄籠聾牢磊賂雷壘屢樓淚漏累縷陋勒肋凜凌稜綾菱陵讀拏樂諾丹寧怒率異北磻便復不泌數索參塞省葉說殺辰沈拾若掠略亮"),
  (0xf978, "兩凉梁糧良諒量勵呂女廬旅濾礪閭驪麗黎力曆歷轢年憐戀撚漣煉璉秊練聯輦蓮連鍊列劣咽烈裂說廉念捻殮簾獵令囹寧嶺怜玲瑩羚聆鈴零靈"),
  (0xf9b4, "領例禮醴隸惡了僚寮尿料樂燎療蓼遼龍暈阮劉杻柳流溜琉留硫紐類六戮陸倫崙淪輪律慄栗率隆利吏履易李梨泥理痢罹裏裡里離匿溺吝燐璘"),
  (0xf9f0, "藺隣鱗麟林淋臨立笠粒狀炙識什茶刺切度拓糖宅洞暴輻行降見廓兀嗀"), (0xfa10, "塚"), (0xfa12, "晴"), (0xfa15, "凞猪益礼神祥福靖精羽"), (0xfa20, "蘒"),
  (0xfa22, "諸"), (0xfa25, "逸都"), (0xfa2a, "飯飼館鶴郞隷侮僧免勉勤卑喝嘆器塀墨層屮悔慨憎懲敏既暑梅海渚漢煮爫琢碑社祉祈祐祖祝禍禎穀突節練縉繁署者臭艹艹著褐視謁謹賓贈"),
  (0xfa66, "辶逸難響頻恵𤋮舘"), (0xfa70, "並况全侀充冀勇勺喝啕喙嗢塚墳奄奔婢嬨廒廙彩徭惘慎愈憎慠懲戴揄搜摒敖晴朗望杖歹殺流滛滋漢瀞煮瞧爵犯猪瑱甆画瘝瘟益盛直睊着磌"),
  (0xfaac, "窱節类絛練缾者荒華蝹襁覆視調諸請謁諾諭謹變贈輸遲醙鉶陼難靖韛響頋頻鬒龜𢡊𢡄𣏕㮝䀘䀹𥉉𥳐𧻓齃龎"), (0xfb20, "עאדהכלםרת+"),
  (0xfb50, "ٱٱٻٻٻٻپپپپڀڀڀڀٺٺٺٺٿٿٿٿٹٹٹٹڤڤڤڤڦڦڦڦڄڄڄڄڃڃڃڃچچچچڇڇڇڇڍڍڌڌڎڎڈڈژژ"),
  (0xfb8c, "ڑڑککککگگگگڳڳڳڳڱڱڱڱںںڻڻڻڻۀۀہہہہھھھھےےۓۓ"), (0xfbd3, "ڭڭڭڭۇۇۆۆۈۈ"), (0xfbde, "ۋۋۅۅۉۉېېېېىى"),
  (0xfbfc, "یییی"), (0xfe10, ",、"), (0xfe13, ":;!?〖〗"), (0xfe31, "—–__()\x7b\x7d〔〕【】《》〈〉"), (0xfe4d, "___,、"),
  (0xfe54, ";:?!—()\x7b\x7d〔〕#&*+-<>="), (0xfe68, "\\$%@"),
  (0xfe80, "ءآآأأؤؤإإئئئئااببببةةتتتتثثثثججججححححخخخخددذذررززسسسسششششصصص"),
  (0xfebc, "صضضضضططططظظظظععععغغغغففففققققككككللللممممننننههههووىىيييي"),
  (0xff5f, "⦅⦆.「」、・ヲァィゥェォャュョッーアイウエオカキクケコサシスセソタチツテト"), (0xff8b, "ヒフヘホ"), (0xff94, "ヤユ"), (0xff9c, "ワン\u3099\u309a"),
  (0xffa1, "ᄀᄁᆪᄂᆬᆭᄃᄄᄅ"), (0xffb0, "ᄚᄆᄇᄈᄡ"), (0xffda, "ᅳᅴᅵ"), (0xffe0, "¢£¬"), (0xffe4, "¦¥₩"), (0xffe8, "│"),
  (0xffed, "■○"), (0x10781, "ːˑæʙɓ"), (0x10787, "ʣꭦʥʤɖɗᶑɘɞʩɤɢɠʛħʜɧʄʪʫɬ𝼄ꞎɮ𝼅ʎ𝼆øɶɷqɺ𝼈ɽɾʀʨʦꭧʧʈⱱ"), (0x107b2, "ʏʡʢʘǀǁǂ𝼊𝼞"),
  (0x1d451, "d"), (0x1d49c, "a"), (0x1d49f, "d"), (0x1d4a5, "j"), (0x1d4a9, "n"), (0x1d4ab, "pq"), (0x1d4b0, "u"),
  (0x1d4b4, "y"), (0x1d4c0, "k"), (0x1d4c8, "s"), (0x1d4cc, "w"), (0x1d504, "a"), (0x1d507, "de"), (0x1d519, "v"),
  (0x1d539, "b"), (0x1d53b, "d"), (0x1d53d, "f"), (0x1d541, "j"), (0x1d543, "l"), (0x1d54b, "tuv"), (0x1d54f, "xy"),
  (0x1d6a4, "ıȷ"), (0x1d6b9, "θ"), (0x1d6c1, "∇"), (0x1d6d3, "σ"), (0x1d6db, "∂εθκφρπ"), (0x1d6f3, "θ"),
  (0x1d6fb, "∇"), (0x1d70d, "σ"), (0x1d715, "∂εθκφρπ"), (0x1d72d, "θ"), (0x1d735, "∇"), (0x1d747, "σ"),
  (0x1d74f, "∂εθκφρπ"), (0x1d767, "θ"), (0x1d76f, "∇"), (0x1d781, "σ"), (0x1d789, "∂εθκφρπ"), (0x1d7a1, "θ"),
  (0x1d7a9, "∇"), (0x1d7bb, "σ"), (0x1d7c3, "∂εθκφρπϝϝ"), (0x1e039, "клм"), (0x1e047, "ыэюꚉәіјөүӏ"),
  (0x1e05a, "клопс"), (0x1e065, "ъыґіѕџҫꙑұ"), (0x1ee00, "ابجد"), (0x1ee05, "وزحطي"), (0x1ee0e, "سعفصقرشتثخذضظغٮںڡٯ"),
  (0x1ee21, "بج"), (0x1ee24, "ه"), (0x1ee27, "ح"), (0x1ee29, "ي"), (0x1ee2e, "سعفصق"), (0x1ee34, "شتثخ"),
  (0x1ee39, "ض"), (0x1ee3b, "غ"), (0x1ee42, "ج"), (0x1ee47, "ح"), (0x1ee49, "ي"), (0x1ee4b, "ل"), (0x1ee4d, "نسع"),
  (0x1ee51, "صق"), (0x1ee54, "ش"), (0x1ee57, "خ"), (0x1ee59, "ض"), (0x1ee5b, "غ"), (0x1ee5d, "ں"), (0x1ee5f, "ٯ"),
  (0x1ee61, "بج"), (0x1ee64, "ه"), (0x1ee67, "حطيك"), (0x1ee6c, "منسعفصق"), (0x1ee74, "شتثخ"), (0x1ee79, "ضظغٮ"),
  (0x1ee7e, "ڡ"), (0x1ee80, "ابجدهوزحطي"), (0x1ee8b, "لمنسعفصقرشتثخذضظغ"), (0x1eea1, "بجد"), (0x1eea5, "وزحطي"),
  (0x1eeab, "لمنسعفصقرشتثخذضظغ"), (0x1f210, "手字双デ二多解天交映無料前後再新初終生販声吹演投捕一三遊左中右指走打禁空合満有月申割営配"), (0x1f250, "得可"),
  (0x2f800, "丽丸乁𠄢你侮侻倂偺備僧像㒞𠘺免兔兤具𠔜㒹內再𠕋冗冤仌冬况𩇟凵刃㓟刻剆割剷㔕勇勉勤勺包匆北卉卑博即卽卿卿卿𠨬灰及叟𠭣叫叱吆"),
  (0x2f83c, "咞吸呈周咢哶唐啓啣善善喙喫喳嗂圖嘆圗噑噴切壮城埴堍型堲報墬𡓤売壷夆多夢奢𡚨𡛪姬娛娧姘婦㛮㛼嬈嬾嬾𡧈寃寘寧寳𡬘寿将当尢㞁屠"),
  (0x2f878, "屮峀岍𡷤嵃𡷦嵮嵫嵼巡巢㠯巽帨帽幩㡢𢆃㡼庰庳庶廊𪎒廾𢌱𢌱舁弢弢㣇𣊸𦇚形彫㣣徚忍志忹悁㤺㤜悔𢛔惇慈慌慎慌慺憎憲憤憯懞懲懶成戛"),
  (0x2f8b4, "扝抱拔捐𢬌挽拼捨掃揤𢯱搢揅掩㨮摩摾撝摷㩬敏敬𣀊旣書晉㬙暑㬈㫤冒冕最暜肭䏙朗望朡杞杓𣏃㭉柺枅桒梅𣑭梎栟椔㮝楂榣槪檨𣚣櫛㰘次"),
  (0x2f8f0, "𣢧歔㱎歲殟殺殻𣪍𡴋𣫺汎𣲼沿泍汧洖派海流浩浸涅𣴞洴港湮㴳滋滇𣻑淹潮𣽞𣾎濆瀹瀞瀛㶖灊災灷炭𠔥煅𤉣熜𤎫爨爵牐𤘈犀犕𤜵𤠔獺王㺬玥"),
  (0x2f92c, "㺸㺸瑇瑜瑱璅瓊㼛甤𤰶甾𤲒異𢆟瘐𤾡𤾸𥁄㿼䀈直𥃳𥃲𥄙𥄳眞真真睊䀹瞋䁆䂖𥐝硎碌磌䃣𥘦祖𥚚𥛅福秫䄯穀穊穏𥥼𥪧𥪧竮䈂𥮫篆築䈧𥲀糒䊠"),
  (0x2f968, "糨糣紀𥾆絣䌁緇縂繅䌴𦈨𦉇䍙𦋙罺𦌾羕翺者𦓚𦔣聠𦖨聰𣍟䏕育脃䐋脾媵𦞧𦞵𣎓𣎜舁舄辞䑫芑芋芝劳花芳芽苦𦬼若茝荣莭茣莽菧著荓菊菌菜"),
  (0x2f9a4, "𦰶𦵫𦳕䔫蓱蓳蔖𧏊蕤𦼬䕝䕡𦾱𧃒䕫虐虜虧虩蚩蚈蜎蛢蝹蜨蝫螆䗗蟡蠁䗹衠衣𧙧裗裞䘵裺㒻𧢮𧥦䚾䛇誠諭變豕𧲨貫賁贛起𧼯𠠄跋趼跰𠣞軔輸"),
  (0x2f9e0, "𨗒𨗭邔郱鄑𨜮鄛鈸鋗鋘鉼鏹鐕𨯺開䦕閷𨵷䧦雃嶲霣𩅅𩈚䩮䩶韠𩐊䪲𩒖頋頋頩𩖶飢䬳餩馧駂駾䯎𩬰鬒鱀鳽䳎䳭鵧𪃎䳸𪄅𪈎𪊑麻䵖黹黾鼅鼏鼖"), (0x2fa1c, "鼻𪘀")]

/-- Characters in a row from the given one on that stand for texts. -/
def textForms : List (Nat × List String) := [
  (0xa8, [" \u0308"]),
  (0xaf, [" \u0304"]),
  (0xb2, ["2", "3", " \u0301", "μ"]),
  (0xb8, [" \u0327", "1", "o"]),
  (0xbc, ["1⁄4", "1⁄2", "3⁄4"]),
  (0x132, ["ij", "ij"]),
  (0x13f, ["l·", "l·"]),
  (0x149, ["ʼn"]),
  (0x1c4, ["dž", "dž", "dž", "lj", "lj", "lj", "nj", "nj", "nj"]),
  (0x1f1, ["dz", "dz", "dz"]),
  (0x2d8, [" \u0306", " \u0307", " \u030a", " \u0328", " \u0303", " \u030b"]),
  (0x343, ["\u0313", "\u0308\u0301", "ι"]),
  (0x37a, [" ι"]),
  (0x384, [" \u0301", " \u0308\u0301"]),
  (0x587, ["եւ"]),
  (0x675, ["اٴ", "وٴ", "ۇٴ", "يٴ"]),
  (0x958, ["क\u093c", "ख\u093c", "ग\u093c", "ज\u093c", "ड\u093c", "ढ\u093c", "फ\u093c", "य\u093c"]),
  (0x9dc, ["ড\u09bc", "ঢ\u09bc"]),
  (0x9df, ["য\u09bc"]),
  (0xa33, ["ਲ\u0a3c"]),
  (0xa36, ["ਸ\u0a3c"]),
  (0xa59, ["ਖ\u0a3c", "ਗ\u0a3c", "ਜ\u0a3c"]),
  (0xa5e, ["ਫ\u0a3c"]),
  (0xb5c, ["ଡ\u0b3c", "ଢ\u0b3c"]),
  (0xe33, ["\u0e4dา"]),
  (0xeb3, ["\u0ecdາ"]),
  (0xedc, ["ຫນ", "ຫມ"]),
  (0xf43, ["ག\u0fb7"]),
  (0xf4d, ["ཌ\u0fb7"]),
  (0xf52, ["ད\u0fb7"]),
  (0xf57, ["བ\u0fb7"]),
  (0xf5c, ["ཛ\u0fb7"]),
  (0xf69, ["ཀ\u0fb5"]),
  (0xf73, ["\u0f71\u0f72"]),
  (0xf75, ["\u0f71\u0f74", "\u0fb2\u0f80", "\u0fb2\u0f71\u0f80", "\u0fb3\u0f80", "\u0fb3\u0f71\u0f80"]),
  (0xf81, ["\u0f71\u0f80"]),
  (0xf93, ["\u0f92\u0fb7"]),
  (0xf9d, ["\u0f9c\u0fb7"]),
  (0xfa2, ["\u0fa1\u0fb7"]),
  (0xfa7, ["\u0fa6\u0fb7"]),
  (0xfac, ["\u0fab\u0fb7"]),
  (0xfb9, ["\u0f90\u0fb5"]),
  (0x1e9a, ["aʾ", "ṡ"]),
  (0x1f80, ["ἀι", "ἁι", "ἂι", "ἃι", "ἄι", "ἅι", "ἆι", "ἇι", "ἀι", "ἁι", "ἂι", "ἃι", "ἄι", "ἅι", "ἆι", "ἇι", "ἠι",
    "ἡι", "ἢι", "ἣι", "ἤι", "ἥι", "ἦι", "ἧι", "ἠι", "ἡι", "ἢι", "ἣι", "ἤι", "ἥι", "ἦι", "ἧι", "ὠι", "ὡι", "ὢι", "ὣι",
    "ὤι", "ὥι", "ὦι", "ὧι", "ὠι", "ὡι", "ὢι", "ὣι", "ὤι", "ὥι", "ὦι", "ὧι"]),
  (0x1fb2, ["ὰι", "αι", "άι"]),
  (0x1fb7, ["ᾶι"]),
  (0x1fbb, ["ά", "αι", " \u0313", "ι", " \u0313", " \u0342", " \u0308\u0342", "ὴι", "ηι", "ήι"]),
  (0x1fc7, ["ῆι"]),
  (0x1fcb, ["ή", "ηι", " \u0313\u0300", " \u0313\u0301", " \u0313\u0342"]),
  (0x1fdd, [" \u0314\u0300", " \u0314\u0301", " \u0314\u0342"]),
  (0x1fed, [" \u0308\u0300", " \u0308\u0301", "`"]),
  (0x1ff2, ["ὼι", "ωι", "ώι"]),
  (0x1ff7, ["ῶι"]),
  (0x1ffb, ["ώ", "ωι", " \u0301", " \u0314"]),
  (0x2017, [" \u0333"]),
  (0x2033, ["′′", "′′′"]),
  (0x2036, ["‵‵", "‵‵‵"]),
  (0x203c, ["!!"]),
  (0x203e, [" \u0305"]),
  (0x2047, ["??", "?!", "!?"]),
  (0x2057, ["′′′′"]),
  (0x20a8, ["rs"]),
  (0x2100, ["a/c", "a/s", "c", "°c"]),
  (0x2105, ["c/o", "c/u", "ɛ"]),
  (0x2109, ["°f"]),
  (0x2115, ["n", "no"]),
  (0x2120, ["sm", "tel", "tm"]),
  (0x213b, ["fax"]),
  (0x2150, ["1⁄7", "1⁄9", "1⁄10", "1⁄3", "2⁄3", "1⁄5", "2⁄5", "3⁄5", "4⁄5", "1⁄6", "5⁄6", "1⁄8", "3⁄8", "5⁄8", "7⁄8",
    "1⁄", "i", "ii", "iii", "iv", "v", "vi", "vii", "viii", "ix", "x", "xi", "xii"]),
  (0x2171, ["ii", "iii", "iv", "v", "vi", "vii", "viii", "ix", "x", "xi", "xii"]),
  (0x2189, ["0⁄3"]),
  (0x222c, ["∫∫", "∫∫∫"]),
  (0x222f, ["∮∮", "∮∮∮"]),
  (0x2469, ["10", "11", "12", "13", "14", "15", "16", "17", "18", "19", "20", "(1)", "(2)", "(3)", "(4)", "(5)",
    "(6)", "(7)", "(8)", "(9)", "(10)", "(11)", "(12)", "(13)", "(14)", "(15)", "(16)", "(17)", "(18)", "(19)",
    "(20)"]),
  (0x249c, ["(a)", "(b)", "(c)", "(d)", "(e)", "(f)", "(g)", "(h)", "(i)", "(j)", "(k)", "(l)", "(m)", "(n)", "(o)",
    "(p)", "(q)", "(r)", "(s)", "(t)", "(u)", "(v)", "(w)", "(x)", "(y)", "(z)"]),
  (0x2a0c, ["∫∫∫∫"]),
  (0x2a74, ["::=", "==", "==="]),
  (0x2adc, ["⫝\u0338"]),
  (0x309b, [" \u3099", " \u309a"]),
  (0x309f, ["より"]),
  (0x30ff, ["コト"]),
  (0x3200, ["(ᄀ)", "(ᄂ)", "(ᄃ)", "(ᄅ)", "(ᄆ)", "(ᄇ)", "(ᄉ)", "(ᄋ)", "(ᄌ)", "(ᄎ)", "(ᄏ)", "(ᄐ)", "(ᄑ)", "(ᄒ)", "(가)",
    "(나)", "(다)", "(라)", "(마)", "(바)", "(사)", "(아)", "(자)", "(차)", "(카)", "(타)", "(파)", "(하)", "(주)", "(오전)", "(오후)"]),
  (0x3220, ["(一)", "(二)", "(三)", "(四)", "(五)", "(六)", "(七)", "(八)", "(九)", "(十)", "(月)", "(火)", "(水)", "(木)", "(金)",
    "(土)", "(日)", "(株)", "(有)", "(社)", "(名)", "(特)", "(財)", "(祝)", "(労)", "(代)", "(呼)", "(学)", "(監)", "(企)", "(資)",
    "(協)", "(祭)", "(休)", "(自)", "(至)"]),
  (0x3250, ["pte", "21", "22", "23", "24", "25", "26", "27", "28", "29", "30", "31", "32", "33", "34", "35"]),
  (0x327c, ["참고", "주의", "우"]),
  (0x32b1, ["36", "37", "38", "39", "40", "41", "42", "43", "44", "45", "46", "47", "48", "49", "50", "1月", "2月",
    "3月", "4月", "5月", "6月", "7月", "8月", "9月", "10月", "11月", "12月", "hg", "erg", "ev", "ltd"]),
  (0x32ff, ["令和", "アパート", "アルファ", "アンペア", "アール", "イニング", "インチ", "ウォン", "エスクード", "エーカー", "オンス", "オーム", "カイリ", "カラット",
    "カロリー", "ガロン", "ガンマ", "ギガ", "ギニー", "キュリー", "ギルダー", "キロ", "キログラム", "キロメートル", "キロワット", "グラム", "グラムトン", "クルゼイロ",
    "クローネ", "ケース", "コルナ", "コーポ", "サイクル", "サンチーム", "シリング", "センチ", "セント", "ダース", "デシ", "ドル", "トン", "ナノ", "ノット", "ハイツ",
    "パーセント", "パーツ", "バーレル", "ピアストル", "ピクル", "ピコ", "ビル", "ファラッド", "フィート", "ブッシェル", "フラン", "ヘクタール", "ペソ", "ペニヒ", "ヘルツ",
    "ペンス", "ページ", "ベータ", "ポイント", "ボルト", "ホン", "ポンド", "ホール", "ホーン", "マイクロ", "マイル", "マッハ", "マルク", "マンション", "ミクロン", "ミリ",
    "ミリバール", "メガ", "メガトン", "メートル", "ヤード", "ヤール", "ユアン", "リットル", "リラ", "ルピー", "ルーブル", "レム", "レントゲン", "ワット", "0点", "1点",
    "2点", "3点", "4点", "5点", "6点", "7点", "8点", "9点", "10点", "11点", "12点", "13点", "14点", "15点", "16点", "17点", "18点",
    "19点", "20点", "21点", "22点", "23点", "24点", "hpa", "da", "au", "bar", "ov", "pc", "dm", "dm2", "dm3", "iu", "平成",
    "昭和", "大正", "明治", "株式会社", "pa", "na", "μa", "ma", "ka", "kb", "mb", "gb", "cal", "kcal", "pf", "nf", "μf", "μg",
    "mg", "kg", "hz", "khz", "mhz", "ghz", "thz", "μl", "ml", "dl", "kl", "fm", "nm", "μm", "mm", "cm", "km", "mm2",
    "cm2", "m2", "km2", "mm3", "cm3", "m3", "km3", "m∕s", "m∕s2", "pa", "kpa", "mpa", "gpa", "rad", "rad∕s", "rad∕s2",
    "ps", "ns", "μs", "ms", "pv", "nv", "μv", "mv", "kv", "mv", "pw", "nw", "μw", "mw", "kw", "mw", "kω", "mω"]),
  (0x33c3, ["bq", "cc", "cd", "c∕kg"]),
  (0x33c8, ["db", "gy", "ha", "hp", "in", "kk", "km", "kt", "lm", "ln", "log", "lx", "mb", "mil", "mol", "ph"]),
  (0x33d9, ["ppm", "pr", "sr", "sv", "wb", "v∕m", "a∕m", "1日", "2日", "3日", "4日", "5日", "6日", "7日", "8日", "9日", "10日",
    "11日", "12日", "13日", "14日", "15日", "16日", "17日", "18日", "19日", "20日", "21日", "22日", "23日", "24日", "25日", "26日",
    "27日", "28日", "29日", "30日", "31日", "gal"]),
  (0xfb00, ["ff", "fi", "fl", "ffi", "ffl", "st", "st"]),
  (0xfb13, ["մն", "մե", "մի", "վն", "մխ"]),
  (0xfb1d, ["י\u05b4"]),
  (0xfb1f, ["ײ\u05b7"]),
  (0xfb2a, ["ש\u05c1", "ש\u05c2", "ש\u05bc\u05c1", "ש\u05bc\u05c2", "א\u05b7", "א\u05b8", "א\u05bc", "ב\u05bc",
    "ג\u05bc", "ד\u05bc", "ה\u05bc", "ו\u05bc", "ז\u05bc"]),
  (0xfb38, ["ט\u05bc", "י\u05bc", "ך\u05bc", "כ\u05bc", "ל\u05bc"]),
  (0xfb3e, ["מ\u05bc"]),
  (0xfb40, ["נ\u05bc", "ס\u05bc"]),
  (0xfb43, ["ף\u05bc", "פ\u05bc"]),
  (0xfb46, ["צ\u05bc", "ק\u05bc", "ר\u05bc", "ש\u05bc", "ת\u05bc", "ו\u05b9", "ב\u05bf", "כ\u05bf", "פ\u05bf", "אל"]),
  (0xfbdd, ["ۇٴ"]),
  (0xfbea, ["ئا", "ئا", "ئە", "ئە", "ئو", "ئو", "ئۇ", "ئۇ", "ئۆ", "ئۆ", "ئۈ", "ئۈ", "ئې", "ئې", "ئې", "ئى", "ئى",
    "ئى"]),
  (0xfc00, ["ئج", "ئح", "ئم", "ئى", "ئي", "بج", "بح", "بخ", "بم", "بى", "بي", "تج", "تح", "تخ", "تم", "تى", "تي",
    "ثج", "ثم", "ثى", "ثي", "جح", "جم", "حج", "حم", "خج", "خح", "خم", "سج", "سح", "سخ", "سم", "صح", "صم", "ضج", "ضح",
    "ضخ", "ضم", "طح", "طم", "ظم", "عج", "عم", "غج", "غم", "فج", "فح", "فخ", "فم", "فى", "في", "قح", "قم", "قى", "قي",
    "كا", "كج", "كح", "كخ", "كل", "كم", "كى", "كي", "لج", "لح", "لخ", "لم", "لى", "لي", "مج", "مح", "مخ", "مم", "مى",
    "مي", "نج", "نح", "نخ", "نم", "نى", "ني", "هج", "هم", "هى", "هي", "يج", "يح", "يخ", "يم", "يى", "يي", "ذ\u0670",
    "ر\u0670", "ى\u0670", " \u064c\u0651", " \u064d\u0651", " \u064e\u0651", " \u064f\u0651", " \u0650\u0651",
    " \u0651\u0670", "ئر", "ئز", "ئم", "ئن", "ئى", "ئي", "بر", "بز", "بم", "بن", "بى", "بي", "تر", "تز", "تم", "تن",
    "تى", "تي", "ثر", "ثز", "ثم", "ثن", "ثى", "ثي", "فى", "في", "قى", "قي", "كا", "كل", "كم", "كى", "كي", "لم", "لى",
    "لي", "ما", "مم", "نر", "نز", "نم", "نن", "نى", "ني", "ى\u0670", "ير", "يز", "يم", "ين", "يى", "يي", "ئج", "ئح",
    "ئخ", "ئم", "ئه", "بج", "بح", "بخ", "بم", "به", "تج", "تح", "تخ", "تم", "ته", "ثم", "جح", "جم", "حج", "حم", "خج",
    "خم", "سج", "سح", "سخ", "سم", "صح", "صخ", "صم", "ضج", "ضح", "ضخ", "ضم", "طح", "ظم", "عج", "عم", "غج", "غم", "فج",
    "فح", "فخ", "فم", "قح", "قم", "كج", "كح", "كخ", "كل", "كم", "لج", "لح", "لخ", "لم", "له", "مج", "مح", "مخ", "مم",
    "نج", "نح", "نخ", "نم", "نه", "هج", "هم", "ه\u0670", "يج", "يح", "يخ", "يم", "يه", "ئم", "ئه", "بم", "به", "تم",
    "ته", "ثم", "ثه", "سم", "سه", "شم", "شه", "كل", "كم", "لم", "نم", "نه", "يم", "يه", "ـ\u064e\u0651",
    "ـ\u064f\u0651", "ـ\u0650\u0651", "طى", "طي", "عى", "عي", "غى", "غي", "سى", "سي", "شى", "شي", "حى", "حي", "جى",
    "جي", "خى", "خي", "صى", "صي", "ضى", "ضي", "شج", "شح", "شخ", "شم", "شر", "سر", "صر", "ضر", "طى", "طي", "عى", "عي",
    "غى", "غي", "سى", "سي", "شى", "شي", "حى", "حي", "جى", "جي", "خى", "خي", "صى", "صي", "ضى", "ضي", "شج", "شح", "شخ",
    "شم", "شر", "سر", "صر", "ضر", "شج", "شح", "شخ", "شم", "سه", "شه", "طم", "سج", "سح", "سخ", "شج", "شح", "شخ", "طم",
    "ظم", "ا\u064b", "ا\u064b"]),
  (0xfd50, ["تجم", "تحج", "تحج", "تحم", "تخم", "تمج", "تمح", "تمخ", "جمح", "جمح", "حمي", "حمى", "سحج", "سجح", "سجى",
    "سمح", "سمح", "سمج", "سمم", "سمم", "صحح", "صحح", "صمم", "شحم", "شحم", "شجي", "شمخ", "شمخ", "شمم", "شمم", "ضحى",
    "ضخم", "ضخم", "طمح", "طمح", "طمم", "طمي", "عجم", "عمم", "عمم", "عمى", "غمم", "غمي", "غمى", "فخم", "فخم", "قمح",
    "قمم", "لحم", "لحي", "لحى", "لجج", "لجج", "لخم", "لخم", "لمح", "لمح", "محج", "محم", "محي", "مجح", "مجم", "مخج",
    "مخم"]),
  (0xfd92, ["مجخ", "همج", "همم", "نحم", "نحى", "نجم", "نجم", "نجى", "نمي", "نمى", "يمم", "يمم", "بخي", "تجي", "تجى",
    "تخي", "تخى", "تمي", "تمى", "جمي", "جحى", "جمى", "سخى", "صحي", "شحي", "ضحي", "لجي", "لمي", "يحي", "يجي", "يمي",
    "ممي", "قمي", "نحي", "قمح", "لحم", "عمي", "كمي", "نجح", "مخي", "لجم", "كمم", "لجم", "نجح", "جحي", "حجي", "مجي",
    "فمي", "بحي", "كمم", "عجم", "صمم", "سخي", "نجي"]),
  (0xfdf0, ["صلے", "قلے", "الله", "اكبر", "محمد", "صلعم", "رسول", "عليه", "وسلم", "صلى", "صلى الله عليه وسلم",
    "جل جلاله", "ریال"]),
  (0xfe47, ["[", "]", " \u0305", " \u0305", " \u0305", " \u0305"]),
  (0xfe70, [" \u064b", "ـ\u064b", " \u064c"]),
  (0xfe74, [" \u064d"]),
  (0xfe76, [" \u064e", "ـ\u064e", " \u064f", "ـ\u064f", " \u0650", "ـ\u0650", " \u0651", "ـ\u0651", " \u0652",
    "ـ\u0652"]),
  (0xfef5, ["لآ", "لآ", "لأ", "لأ", "لإ", "لإ", "لا", "لا"]),
  (0xffe3, [" \u0304"]),
  (0x1d15e, ["𝅗𝅥", "𝅘𝅥", "𝅘𝅥𝅮", "𝅘𝅥𝅯", "𝅘𝅥𝅰", "𝅘𝅥𝅱", "𝅘𝅥𝅲"]),
  (0x1d1bb, ["𝆹𝅥", "𝆺𝅥", "𝆹𝅥𝅮", "𝆺𝅥𝅮", "𝆹𝅥𝅯", "𝆺𝅥𝅯"]),
  (0x1f101, ["0,", "1,", "2,", "3,", "4,", "5,", "6,", "7,", "8,", "9,"]),
  (0x1f110, ["(a)", "(b)", "(c)", "(d)", "(e)", "(f)", "(g)", "(h)", "(i)", "(j)", "(k)", "(l)", "(m)", "(n)", "(o)",
    "(p)", "(q)", "(r)", "(s)", "(t)", "(u)", "(v)", "(w)", "(x)", "(y)", "(z)", "〔s〕", "c", "r", "cd", "wz"]),
  (0x1f14a, ["hv", "mv", "sd", "ss", "ppv", "wc"]),
  (0x1f16a, ["mc", "md", "mr"]),
  (0x1f190, ["dj"]),
  (0x1f200, ["ほか", "ココ", "サ"]),
  (0x1f240, ["〔本〕", "〔三〕", "〔二〕", "〔安〕", "〔点〕", "〔打〕", "〔盗〕", "〔勝〕", "〔敗〕"])]

end Flowgraph.HostName
