/-!
# What characters of a domain name are replaced by

Compatibility forms of letters, digits and signs: fullwidth and halfwidth ones, those of a fixed
position in a word, ligatures, units and the like. Capital letters are not listed; they are replaced
by small ones.
-/

namespace OpenApiTools.Url.Domain

/-- Runs of characters, each with the character that its first one is replaced by; the others follow
in step. -/
def imageRuns : List (Nat × Nat × Nat) :=
  [(0x1D33, 0x1D3A, 0x67), (0x2080, 0x2089, 0x30), (0x2460, 0x2468, 0x31), (0x24B6, 0x24CF, 0x61),
   (0x24D0, 0x24E9, 0x61), (0x3145, 0x314E, 0x1109), (0x314F, 0x3163, 0x1161),
   (0xAB70, 0xABBF, 0x13A0), (0xFF01, 0xFF20, 0x21), (0xFF21, 0xFF3A, 0x61), (0xFF3B, 0xFF5E, 0x5B),
   (0xFFB5, 0xFFBE, 0x1109), (0x1D400, 0x1D419, 0x61), (0x1D41A, 0x1D433, 0x61),
   (0x1D434, 0x1D44D, 0x61), (0x1D44E, 0x1D454, 0x61), (0x1D456, 0x1D467, 0x69),
   (0x1D468, 0x1D481, 0x61), (0x1D482, 0x1D49B, 0x61), (0x1D4AE, 0x1D4B5, 0x73),
   (0x1D4BD, 0x1D4C3, 0x68), (0x1D4C5, 0x1D4CF, 0x70), (0x1D4D0, 0x1D4E9, 0x61),
   (0x1D4EA, 0x1D503, 0x61), (0x1D50D, 0x1D514, 0x6A), (0x1D516, 0x1D51C, 0x73),
   (0x1D51E, 0x1D537, 0x61), (0x1D54A, 0x1D550, 0x73), (0x1D552, 0x1D56B, 0x61),
   (0x1D56C, 0x1D585, 0x61), (0x1D586, 0x1D59F, 0x61), (0x1D5A0, 0x1D5B9, 0x61),
   (0x1D5BA, 0x1D5D3, 0x61), (0x1D5D4, 0x1D5ED, 0x61), (0x1D5EE, 0x1D607, 0x61),
   (0x1D608, 0x1D621, 0x61), (0x1D622, 0x1D63B, 0x61), (0x1D63C, 0x1D655, 0x61),
   (0x1D656, 0x1D66F, 0x61), (0x1D670, 0x1D689, 0x61), (0x1D68A, 0x1D6A3, 0x61),
   (0x1D6A8, 0x1D6B8, 0x3B1), (0x1D6BA, 0x1D6C0, 0x3C3), (0x1D6C2, 0x1D6D2, 0x3B1),
   (0x1D6D4, 0x1D6DA, 0x3C3), (0x1D6E2, 0x1D6F2, 0x3B1), (0x1D6F4, 0x1D6FA, 0x3C3),
   (0x1D6FC, 0x1D70C, 0x3B1), (0x1D70E, 0x1D714, 0x3C3), (0x1D71C, 0x1D72C, 0x3B1),
   (0x1D72E, 0x1D734, 0x3C3), (0x1D736, 0x1D746, 0x3B1), (0x1D748, 0x1D74E, 0x3C3),
   (0x1D756, 0x1D766, 0x3B1), (0x1D768, 0x1D76E, 0x3C3), (0x1D770, 0x1D780, 0x3B1),
   (0x1D782, 0x1D788, 0x3C3), (0x1D790, 0x1D7A0, 0x3B1), (0x1D7A2, 0x1D7A8, 0x3C3),
   (0x1D7AA, 0x1D7BA, 0x3B1), (0x1D7BC, 0x1D7C2, 0x3C3), (0x1D7CE, 0x1D7D7, 0x30),
   (0x1D7D8, 0x1D7E1, 0x30), (0x1D7E2, 0x1D7EB, 0x30), (0x1D7EC, 0x1D7F5, 0x30),
   (0x1D7F6, 0x1D7FF, 0x30), (0x1E030, 0x1E038, 0x430), (0x1E03C, 0x1E046, 0x43E),
   (0x1E051, 0x1E059, 0x430), (0x1F130, 0x1F149, 0x61), (0x1FBF0, 0x1FBF9, 0x30)]

/-- Rows of characters that are replaced by one character each: the first one, and what it and those
after it are replaced by. A space stands where there is no such character. -/
def imageRows : List (Nat × String) :=
  [(0xAA, "a       23 μ   1o"),
   (0x17F, "s"),
   (0x2B0, "hɦjrɹɻʁwy"),
   (0x2E0, "ɣlsxʕ"),
   (0x340, "\u0300\u0301 \u0313 ι"),
   (0x374, "ʹ"),
   (0x37E, ";        ·"),
   (0x3A3, "σ"),
   (0x3D0, "βθυύϋφπ"),
   (0x3F0, "κρσ  ε   σ"),
   (0xF0C, "་"),
   (0x10FC, "ნ"),
   (0x13F8, "ᏰᏱᏲᏳᏴᏵ"),
   (0x1C80, "вдосттъѣꙋ"),
   (0x1D2C, "aæb deǝ"),
   (0x1D3C, "oȣprtuwaɐɑᴂbdeəɛɜg kmŋoɔᴖᴗptuᴝɯvᴥβγδφχiruvβγρφχ"),
   (0x1D78, "н"),
   (0x1D9B, "ɒcɕðɜfɟɡɥɨɩɪᵻʝɭᶅʟɱɰɲɳɴɵɸʂʃƫʉʊᴜʋʌzʐʑʒθ"),
   (0x1E9B, "ṡ"),
   (0x1F71, "ά έ ή ί ό ύ ώ"),
   (0x1FBB, "ά  ι"),
   (0x1FC9, "έ ή       ΐ       ί       ΰ       ύ   \x60"),
   (0x1FF9, "ό ώ"),
   (0x2011, "‐"),
   (0x2070, "0i  456789+−=()n"),
   (0x208A, "+−=() aeoxəhklmnpst"),
   (0x2102, "c    ɛ  ghhhhħiill n   pqrrr      z   z   bc eef mo\u05D0\u05D1\u05D2\u05D3i  πγγπ∑"),
   (0x2145, "ddeij"),
   (0x2160, "i   v    x  lcdmi   v    x  lcdm"),
   (0x2329, "〈〉"),
   (0x24EA, "0"),
   (0x2C7C, "jv"),
   (0x2D6F, "ⵡ"),
   (0x2E9F, "母"),
   (0x2EF3, "龟"),
   (0x2F00, "一丨丶丿乙亅二亠人儿入八冂冖冫几凵刀力勹匕匚匸十卜卩厂厶又口囗土士夂夊夕大女子宀寸小尢尸屮山巛工己巾干幺广廴廾弋弓彐彡彳心戈戶手"),
   (0x2F40, "支攴文斗斤方无日曰月木欠止歹殳毋比毛氏气水火爪父爻爿片牙牛犬玄玉瓜瓦甘生用田疋疒癶白皮皿目矛矢石示禸禾穴立竹米糸缶网羊羽老而耒耳"),
   (0x2F80, "聿肉臣自至臼舌舛舟艮色艸虍虫血行衣襾見角言谷豆豕豸貝赤走足身車辛辰辵邑酉釆里金長門阜隶隹雨靑非面革韋韭音頁風飛食首香馬骨高髟鬥鬯"),
   (0x2FC0, "鬲鬼魚鳥鹵鹿麥麻黃黍黑黹黽鼎鼓鼠鼻齊齒龍龜龠"),
   (0x3002, "."),
   (0x3036, "〒 十卄卅"),
   (0x3131, "\u1100\u1101\u11AA\u1102\u11AC\u11AD\u1103\u1104\u1105\u11B0\u11B1\u11B2\u11B3\u11B4"),
   (0x313F, "\u11B5\u111A\u1106\u1107\u1108\u1121"),
   (0x3165, "\u1114\u1115\u11C7\u11C8\u11CC\u11CE\u11D3\u11D7\u11D9\u111C\u11DD\u11DF\u111D\u111E"),
   (0x3173, "\u1120\u1122\u1123\u1127\u1129\u112B\u112C\u112D\u112E\u112F\u1132\u1136\u1140\u1147"),
   (0x3181, "\u114C\u11F1\u11F2\u1157\u1158\u1159\u1184\u1185\u1188\u1191\u1192\u1194\u119E\u11A1"),
   (0x3192, "一二三四上中下甲乙丙丁天地人"),
   (0x3244, "問幼文箏"),
   (0x3260, "\u1100\u1102\u1103\u1105\u1106\u1107\u1109\u110B\u110C\u110E\u110F\u1110\u1111\u1112"),
   (0x326E, "가나다라마바사아자차카타파하  우 一二三四五六七八九十月火水木金土日株有社名特財祝労秘男女適優印注項休写正上中下左右医宗学監企"),
   (0x32AE, "資協夜"),
   (0x32D0, "アイウエオカキクケコサシスセソタチツテトナニヌネノハヒフヘホマミムメモヤユヨラリルレロワヰヱヲ"),
   (0xA69C, "ъь"),
   (0xA770, "ꝯ"),
   (0xA7F2, "cfq   ħœ"),
   (0xAB5C, "ꜧꬷɫꭒ"),
   (0xAB69, "ʍ"),
   (0xF900, "豈更車賈滑串句龜龜契金喇奈懶癩羅蘿螺裸邏樂洛烙珞落酪駱亂卵欄爛蘭鸞嵐濫藍襤拉臘蠟廊朗浪狼郎來冷勞擄櫓爐盧老蘆虜路露魯鷺碌祿綠菉錄"),
   (0xF940, "鹿論壟弄籠聾牢磊賂雷壘屢樓淚漏累縷陋勒肋凜凌稜綾菱陵讀拏樂諾丹寧怒率異北磻便復不泌數索參塞省葉說殺辰沈拾若掠略亮兩凉梁糧良諒量勵"),
   (0xF980, "呂女廬旅濾礪閭驪麗黎力曆歷轢年憐戀撚漣煉璉秊練聯輦蓮連鍊列劣咽烈裂說廉念捻殮簾獵令囹寧嶺怜玲瑩羚聆鈴零靈領例禮醴隸惡了僚寮尿料樂"),
   (0xF9C0, "燎療蓼遼龍暈阮劉杻柳流溜琉留硫紐類六戮陸倫崙淪輪律慄栗率隆利吏履易李梨泥理痢罹裏裡里離匿溺吝燐璘藺隣鱗麟林淋臨立笠粒狀炙識什茶刺"),
   (0xFA00, "切度拓糖宅洞暴輻行降見廓兀嗀  塚 晴  凞猪益礼神祥福靖精羽 蘒 諸  逸都   飯飼館鶴郞隷侮僧免勉勤卑喝嘆器塀墨層屮悔慨憎"),
   (0xFA40, "懲敏既暑梅海渚漢煮爫琢碑社祉祈祐祖祝禍禎穀突節練縉繁署者臭艹艹著褐視謁謹賓贈辶逸難響頻恵𤋮舘  並况全侀充冀勇勺喝啕喙嗢塚墳奄奔"),
   (0xFA80, "婢嬨廒廙彩徭惘慎愈憎慠懲戴揄搜摒敖晴朗望杖歹殺流滛滋漢瀞煮瞧爵犯猪瑱甆画瘝瘟益盛直睊着磌窱節类絛練缾者荒華蝹襁覆視調諸請謁諾諭謹"),
   (0xFAC0, "變贈輸遲醙鉶陼難靖韛響頋頻鬒龜𢡊𢡄𣏕㮝䀘䀹𥉉𥳐𧻓齃龎"),
   (0xFB20, "\u05E2\u05D0\u05D3\u05D4\u05DB\u05DC\u05DD\u05E8\u05EA+"),
   (0xFB50, "\u0671\u0671\u067B\u067B\u067B\u067B\u067E\u067E\u067E\u067E\u0680\u0680\u0680\u0680"),
   (0xFB5E, "\u067A\u067A\u067A\u067A\u067F\u067F\u067F\u067F\u0679\u0679\u0679\u0679\u06A4\u06A4"),
   (0xFB6C, "\u06A4\u06A4\u06A6\u06A6\u06A6\u06A6\u0684\u0684\u0684\u0684\u0683\u0683\u0683\u0683"),
   (0xFB7A, "\u0686\u0686\u0686\u0686\u0687\u0687\u0687\u0687\u068D\u068D\u068C\u068C\u068E\u068E"),
   (0xFB88, "\u0688\u0688\u0698\u0698\u0691\u0691\u06A9\u06A9\u06A9\u06A9\u06AF\u06AF\u06AF\u06AF"),
   (0xFB96, "\u06B3\u06B3\u06B3\u06B3\u06B1\u06B1\u06B1\u06B1\u06BA\u06BA\u06BB\u06BB\u06BB\u06BB"),
   (0xFBA4, "\u06C0\u06C0\u06C1\u06C1\u06C1\u06C1\u06BE\u06BE\u06BE\u06BE\u06D2\u06D2\u06D3\u06D3"),
   (0xFBD3, "\u06AD\u06AD\u06AD\u06AD\u06C7\u06C7\u06C6\u06C6\u06C8\u06C8 \u06CB\u06CB\u06C5"),
   (0xFBE1, "\u06C5\u06C9\u06C9\u06D0\u06D0\u06D0\u06D0\u0649\u0649"),
   (0xFBFC, "\u06CC\u06CC\u06CC\u06CC"),
   (0xFE10, ",、 :;!?〖〗"),
   (0xFE31, "—–__()\x7b\x7d〔〕【】《》〈〉「」『』  []    ___,、  ;:?!—()\x7b\x7d〔〕#&*+-<>= \\$%@"),
   (0xFE80, "\u0621\u0622\u0622\u0623\u0623\u0624\u0624\u0625\u0625\u0626\u0626\u0626\u0626\u0627"),
   (0xFE8E, "\u0627\u0628\u0628\u0628\u0628\u0629\u0629\u062A\u062A\u062A\u062A\u062B\u062B\u062B"),
   (0xFE9C, "\u062B\u062C\u062C\u062C\u062C\u062D\u062D\u062D\u062D\u062E\u062E\u062E\u062E\u062F"),
   (0xFEAA, "\u062F\u0630\u0630\u0631\u0631\u0632\u0632\u0633\u0633\u0633\u0633\u0634\u0634\u0634"),
   (0xFEB8, "\u0634\u0635\u0635\u0635\u0635\u0636\u0636\u0636\u0636\u0637\u0637\u0637\u0637\u0638"),
   (0xFEC6, "\u0638\u0638\u0638\u0639\u0639\u0639\u0639\u063A\u063A\u063A\u063A\u0641\u0641\u0641"),
   (0xFED4, "\u0641\u0642\u0642\u0642\u0642\u0643\u0643\u0643\u0643\u0644\u0644\u0644\u0644\u0645"),
   (0xFEE2, "\u0645\u0645\u0645\u0646\u0646\u0646\u0646\u0647\u0647\u0647\u0647\u0648\u0648\u0649"),
   (0xFEF0, "\u0649\u064A\u064A\u064A\u064A"),
   (0xFF5F, "⦅⦆.「」、・ヲァィゥェォャュョッーアイウエオカキクケコサシスセソタチツテトナニヌネノハヒフヘホマミムメモヤユヨラリルレロワン\u3099"),
   (0xFF9F, "\u309A \u1100\u1101\u11AA\u1102\u11AC\u11AD\u1103\u1104\u1105\u11B0\u11B1\u11B2"),
   (0xFFAD, "\u11B3\u11B4\u11B5\u111A\u1106\u1107\u1108\u1121"),
   (0xFFC2, "\u1161\u1162\u1163\u1164\u1165\u1166  \u1167\u1168\u1169\u116A\u116B\u116C  \u116D"),
   (0xFFD3, "\u116E\u116F\u1170\u1171\u1172  \u1173\u1174\u1175   ¢£¬ ¦¥₩ │←↑→↓■○"),
   (0x10781, "ːˑæʙɓ ʣꭦʥʤɖɗᶑɘɞʩɤɢɠʛħʜɧʄʪʫɬ𝼄ꞎɮ𝼅ʎ𝼆øɶɷqɺ𝼈ɽɾʀʨʦꭧʧʈⱱ ʏʡʢʘǀǁǂ𝼊𝼞"),
   (0x1D49C, "a cd  g  jk  nopq"),
   (0x1D4B6, "abcd f"),
   (0x1D504, "ab defg"),
   (0x1D538, "ab defg ijklm o"),
   (0x1D6A4, "ıȷ"),
   (0x1D6B9, "θ       ∇"),
   (0x1D6D3, "σ       ∂εθκφρπ"),
   (0x1D6F3, "θ       ∇"),
   (0x1D70D, "σ       ∂εθκφρπ"),
   (0x1D72D, "θ       ∇"),
   (0x1D747, "σ       ∂εθκφρπ"),
   (0x1D767, "θ       ∇"),
   (0x1D781, "σ       ∂εθκφρπ"),
   (0x1D7A1, "θ       ∇"),
   (0x1D7BB, "σ       ∂εθκφρπϝϝ"),
   (0x1E039, "клм"),
   (0x1E047, "ыэюꚉәіјөүӏ"),
   (0x1E05A, "клопсуфхцчшъыґіѕџҫꙑұ"),
   (0x1EE00, "\u0627\u0628\u062C\u062F \u0648\u0632\u062D\u0637\u064A\u0643\u0644\u0645\u0646"),
   (0x1EE0E, "\u0633\u0639\u0641\u0635\u0642\u0631\u0634\u062A\u062B\u062E\u0630\u0636\u0638"),
   (0x1EE1B, "\u063A\u066E\u06BA\u06A1\u066F \u0628\u062C \u0647  \u062D \u064A\u0643\u0644\u0645"),
   (0x1EE2D, "\u0646\u0633\u0639\u0641\u0635\u0642 \u0634\u062A\u062B\u062E \u0636 \u063A"),
   (0x1EE42, "\u062C    \u062D \u064A \u0644 \u0646\u0633\u0639 \u0635\u0642 \u0634  \u062E"),
   (0x1EE59, "\u0636 \u063A \u06BA \u066F \u0628\u062C \u0647  \u062D\u0637\u064A\u0643 \u0645"),
   (0x1EE6D, "\u0646\u0633\u0639\u0641\u0635\u0642 \u0634\u062A\u062B\u062E \u0636\u0638\u063A"),
   (0x1EE7C, "\u066E \u06A1 \u0627\u0628\u062C\u062F\u0647\u0648\u0632\u062D\u0637\u064A \u0644"),
   (0x1EE8C, "\u0645\u0646\u0633\u0639\u0641\u0635\u0642\u0631\u0634\u062A\u062B\u062E\u0630"),
   (0x1EE99, "\u0636\u0638\u063A     \u0628\u062C\u062F \u0648\u0632\u062D\u0637\u064A \u0644"),
   (0x1EEAC, "\u0645\u0646\u0633\u0639\u0641\u0635\u0642\u0631\u0634\u062A\u062B\u062E\u0630"),
   (0x1EEB9, "\u0636\u0638\u063A"),
   (0x1F12B, "cr"),
   (0x1F202, "サ"),
   (0x1F210, "手字双デ二多解天交映無料前後再新初終生販声吹演投捕一三遊左中右指走打禁空合満有月申割営配"),
   (0x1F250, "得可"),
   (0x2F800, "丽丸乁𠄢你侮侻倂偺備僧像㒞𠘺免兔兤具𠔜㒹內再𠕋冗冤仌冬况𩇟凵刃㓟刻剆割剷㔕勇勉勤勺包匆北卉卑博即卽卿卿卿𠨬灰及叟𠭣叫叱吆咞吸呈周"),
   (0x2F840, "咢哶唐啓啣善善喙喫喳嗂圖嘆圗噑噴切壮城埴堍型堲報墬𡓤売壷夆多夢奢𡚨𡛪姬娛娧姘婦㛮 嬈嬾嬾𡧈寃寘寧寳𡬘寿将 尢㞁屠屮峀岍𡷤嵃𡷦嵮嵫"),
   (0x2F880, "嵼巡巢㠯巽帨帽幩㡢𢆃㡼庰庳庶廊𪎒廾𢌱𢌱舁弢弢㣇𣊸𦇚形彫㣣徚忍志忹悁㤺㤜悔𢛔惇慈慌慎慌慺憎憲憤憯懞懲懶成戛扝抱拔捐𢬌挽拼捨掃揤𢯱搢"),
   (0x2F8C0, "揅掩㨮摩摾撝摷㩬敏敬𣀊旣書晉㬙暑㬈㫤冒冕最暜肭䏙朗望朡杞杓𣏃㭉柺枅桒梅𣑭梎栟椔㮝楂榣槪檨𣚣櫛㰘次𣢧歔㱎歲殟殺殻𣪍𡴋𣫺汎𣲼沿泍汧洖"),
   (0x2F900, "派海流浩浸涅𣴞洴港湮㴳滋滇𣻑淹潮𣽞𣾎濆瀹瀞瀛㶖灊災灷炭𠔥煅𤉣熜 爨爵牐𤘈犀犕𤜵𤠔獺王㺬玥㺸㺸瑇瑜瑱璅瓊㼛甤𤰶甾𤲒異𢆟瘐𤾡𤾸𥁄㿼䀈"),
   (0x2F940, "直𥃳𥃲𥄙𥄳眞真真睊䀹瞋䁆䂖𥐝硎碌磌䃣𥘦祖𥚚𥛅福秫䄯穀穊穏𥥼𥪧𥪧 䈂𥮫篆築䈧𥲀糒䊠糨糣紀𥾆絣䌁緇縂繅䌴𦈨𦉇䍙𦋙罺𦌾羕翺者𦓚𦔣聠𦖨聰"),
   (0x2F980, "𣍟䏕育脃䐋脾媵𦞧𦞵𣎓𣎜舁舄辞䑫芑芋芝劳花芳芽苦𦬼若茝荣莭茣莽菧著荓菊菌菜𦰶𦵫𦳕䔫蓱蓳蔖𧏊蕤𦼬䕝䕡𦾱𧃒䕫虐虜虧虩蚩蚈蜎蛢蝹蜨蝫螆"),
   (0x2F9C0, "蟡蠁䗹衠衣𧙧裗裞䘵裺㒻𧢮𧥦䚾䛇誠諭變豕𧲨貫賁贛起𧼯𠠄跋趼跰𠣞軔輸𨗒𨗭邔郱鄑𨜮鄛鈸鋗鋘鉼鏹鐕𨯺開䦕閷𨵷䧦雃嶲霣𩅅𩈚䩮䩶韠𩐊䪲𩒖頋頋"),
   (0x2FA00, "頩𩖶飢䬳餩馧駂駾䯎𩬰鬒鱀鳽䳎䳭鵧𪃎䳸𪄅𪈎𪊑麻䵖黹黾鼅鼏鼖鼻𪘀")]

/-- Rows of characters that are replaced by several characters each, or by a space: the first one,
and what it and those after it are replaced by, between bars. Nothing stands where there is no such
character. -/
def longImageRows : List (Nat × String) :=
  [(0xA0, " |||||||| \u0308||||||| \u0304||||| \u0301|||| \u0327||||1⁄4|1⁄2|3⁄4"),
   (0x130, "i\u0307||ij|ij"),
   (0x13F, "l·|l·|||||||||ʼn"),
   (0x1C4, "dž|dž|dž|lj|lj|lj|nj|nj|nj"),
   (0x1F1, "dz|dz|dz"),
   (0x2D8, " \u0306| \u0307| \u030A| \u0328| \u0303| \u030B"),
   (0x344, "\u0308\u0301"),
   (0x37A, " ι"),
   (0x384, " \u0301| \u0308\u0301"),
   (0x587, "եւ"),
   (0x675, "\u0627\u0674|\u0648\u0674|\u06C7\u0674|\u064A\u0674"),
   (0x958, "क\u093C|ख\u093C|ग\u093C|ज\u093C|ड\u093C|ढ\u093C|फ\u093C|य\u093C"),
   (0x9DC, "ড\u09BC|ঢ\u09BC||য\u09BC"),
   (0xA33, "ਲ\u0A3C|||ਸ\u0A3C"),
   (0xA59, "ਖ\u0A3C|ਗ\u0A3C|ਜ\u0A3C|||ਫ\u0A3C"),
   (0xB5C, "ଡ\u0B3C|ଢ\u0B3C"),
   (0xE33, "\u0E4Dา"),
   (0xEB3, "\u0ECDາ"),
   (0xEDC, "ຫນ|ຫມ"),
   (0xF43, "ག\u0FB7"),
   (0xF4D, "ཌ\u0FB7|||||ད\u0FB7|||||བ\u0FB7|||||ཛ\u0FB7"),
   (0xF69, "ཀ\u0FB5"),
   (0xF73, "\u0F71\u0F72||\u0F71\u0F74|\u0FB2\u0F80|\u0FB2\u0F71\u0F80|\u0FB3\u0F80"),
   (0xF79, "\u0FB3\u0F71\u0F80||||||||\u0F71\u0F80"),
   (0xF93, "\u0F92\u0FB7"),
   (0xF9D, "\u0F9C\u0FB7|||||\u0FA1\u0FB7|||||\u0FA6\u0FB7|||||\u0FAB\u0FB7"),
   (0xFB9, "\u0F90\u0FB5"),
   (0x1E9A, "aʾ"),
   (0x1F80, "ἀι|ἁι|ἂι|ἃι|ἄι|ἅι|ἆι|ἇι|ἀι|ἁι|ἂι|ἃι|ἄι|ἅι|ἆι|ἇι|ἠι|ἡι|ἢι|ἣι|ἤι|ἥι|ἦι|ἧι|ἠι|ἡι|ἢι|ἣι"),
   (0x1F9C, "ἤι|ἥι|ἦι|ἧι|ὠι|ὡι|ὢι|ὣι|ὤι|ὥι|ὦι|ὧι|ὠι|ὡι|ὢι|ὣι|ὤι|ὥι|ὦι|ὧι|||ὰι|αι|άι|||ᾶι|||||αι"),
   (0x1FBD, " \u0313|| \u0313| \u0342| \u0308\u0342|ὴι|ηι|ήι|||ῆι|||||ηι| \u0313\u0300"),
   (0x1FCE, " \u0313\u0301| \u0313\u0342"),
   (0x1FDD, " \u0314\u0300| \u0314\u0301| \u0314\u0342"),
   (0x1FED, " \u0308\u0300| \u0308\u0301||||ὼι|ωι|ώι|||ῶι|||||ωι| \u0301| \u0314|| | | | | | | | "),
   (0x2008, " | | "),
   (0x2017, " \u0333"),
   (0x202F, " ||||′′|′′′||‵‵|‵‵‵|||||!!|| \u0305|||||||||??|?!|!?"),
   (0x2057, "′′′′|||||||| "),
   (0x20A8, "rs"),
   (0x2100, "a/c|a/s||°c||c/o|c/u|||°f"),
   (0x2116, "no"),
   (0x2120, "sm|tel|tm"),
   (0x213B, "fax"),
   (0x2150, "1⁄7|1⁄9|1⁄10|1⁄3|2⁄3|1⁄5|2⁄5|3⁄5|4⁄5|1⁄6|5⁄6|1⁄8|3⁄8|5⁄8|7⁄8|1⁄||ii|iii|iv||vi|vii"),
   (0x2167, "viii|ix||xi|xii||||||ii|iii|iv||vi|vii|viii|ix||xi|xii"),
   (0x2189, "0⁄3"),
   (0x222C, "∫∫|∫∫∫||∮∮|∮∮∮"),
   (0x2469, "10|11|12|13|14|15|16|17|18|19|20|(1)|(2)|(3)|(4)|(5)|(6)|(7)|(8)|(9)|(10)|(11)|(12)"),
   (0x2480, "(13)|(14)|(15)|(16)|(17)|(18)|(19)|(20)"),
   (0x249C, "(a)|(b)|(c)|(d)|(e)|(f)|(g)|(h)|(i)|(j)|(k)|(l)|(m)|(n)|(o)|(p)|(q)|(r)|(s)|(t)|(u)"),
   (0x24B1, "(v)|(w)|(x)|(y)|(z)"),
   (0x2A0C, "∫∫∫∫"),
   (0x2A74, "::=|==|==="),
   (0x2ADC, "⫝\u0338"),
   (0x3000, " "),
   (0x309B, " \u3099| \u309A|||より"),
   (0x30FF, "コト"),
   (0x3200, "(\u1100)|(\u1102)|(\u1103)|(\u1105)|(\u1106)|(\u1107)|(\u1109)|(\u110B)|(\u110C)"),
   (0x3209, "(\u110E)|(\u110F)|(\u1110)|(\u1111)|(\u1112)|(가)|(나)|(다)|(라)|(마)|(바)|(사)|(아)|(자)|(차)"),
   (0x3218, "(카)|(타)|(파)|(하)|(주)|(오전)|(오후)||(一)|(二)|(三)|(四)|(五)|(六)|(七)|(八)|(九)|(十)|(月)|(火)|(水)"),
   (0x322D, "(木)|(金)|(土)|(日)|(株)|(有)|(社)|(名)|(特)|(財)|(祝)|(労)|(代)|(呼)|(学)|(監)|(企)|(資)|(協)|(祭)|(休)"),
   (0x3242, "(自)|(至)"),
   (0x3250, "pte|21|22|23|24|25|26|27|28|29|30|31|32|33|34|35"),
   (0x327C, "참고|주의"),
   (0x32B1, "36|37|38|39|40|41|42|43|44|45|46|47|48|49|50|1月|2月|3月|4月|5月|6月|7月|8月|9月|10月|11月|12月"),
   (0x32CC, "hg|erg|ev|ltd"),
   (0x32FF, "令和|アパート|アルファ|アンペア|アール|イニング|インチ|ウォン|エスクード|エーカー|オンス|オーム|カイリ|カラット|カロリー|ガロン|ガンマ|ギガ|ギニー"),
   (0x3312, "キュリー|ギルダー|キロ|キログラム|キロメートル|キロワット|グラム|グラムトン|クルゼイロ|クローネ|ケース|コルナ|コーポ|サイクル|サンチーム|シリング|センチ"),
   (0x3323, "セント|ダース|デシ|ドル|トン|ナノ|ノット|ハイツ|パーセント|パーツ|バーレル|ピアストル|ピクル|ピコ|ビル|ファラッド|フィート|ブッシェル|フラン"),
   (0x3336, "ヘクタール|ペソ|ペニヒ|ヘルツ|ペンス|ページ|ベータ|ポイント|ボルト|ホン|ポンド|ホール|ホーン|マイクロ|マイル|マッハ|マルク|マンション|ミクロン|ミリ"),
   (0x334A, "ミリバール|メガ|メガトン|メートル|ヤード|ヤール|ユアン|リットル|リラ|ルピー|ルーブル|レム|レントゲン|ワット|0点|1点|2点|3点|4点|5点|6点|7点"),
   (0x3360, "8点|9点|10点|11点|12点|13点|14点|15点|16点|17点|18点|19点|20点|21点|22点|23点|24点|hpa|da|au|bar|ov"),
   (0x3376, "pc|dm|dm2|dm3|iu|平成|昭和|大正|明治|株式会社|pa|na|μa|ma|ka|kb|mb|gb|cal|kcal|pf|nf|μf|μg|mg|kg"),
   (0x3390, "hz|khz|mhz|ghz|thz|μl|ml|dl|kl|fm|nm|μm|mm|cm|km|mm2|cm2|m2|km2|mm3|cm3|m3|km3|m∕s"),
   (0x33A8, "m∕s2|pa|kpa|mpa|gpa|rad|rad∕s|rad∕s2|ps|ns|μs|ms|pv|nv|μv|mv|kv|mv|pw|nw|μw|mw|kw|mw"),
   (0x33C0, "kω|mω||bq|cc|cd|c∕kg||db|gy|ha|hp|in|kk|km|kt|lm|ln|log|lx|mb|mil|mol|ph||ppm|pr|sr"),
   (0x33DC, "sv|wb|v∕m|a∕m|1日|2日|3日|4日|5日|6日|7日|8日|9日|10日|11日|12日|13日|14日|15日|16日|17日|18日|19日|20日"),
   (0x33F4, "21日|22日|23日|24日|25日|26日|27日|28日|29日|30日|31日|gal"),
   (0xFB00, "ff|fi|fl|ffi|ffl|st|st"),
   (0xFB13, "մն|մե|մի|վն|մխ||||||\u05D9\u05B4||\u05F2\u05B7"),
   (0xFB2A, "\u05E9\u05C1|\u05E9\u05C2|\u05E9\u05BC\u05C1|\u05E9\u05BC\u05C2|\u05D0\u05B7"),
   (0xFB2F, "\u05D0\u05B8|\u05D0\u05BC|\u05D1\u05BC|\u05D2\u05BC|\u05D3\u05BC|\u05D4\u05BC"),
   (0xFB35, "\u05D5\u05BC|\u05D6\u05BC||\u05D8\u05BC|\u05D9\u05BC|\u05DA\u05BC|\u05DB\u05BC"),
   (0xFB3C, "\u05DC\u05BC||\u05DE\u05BC||\u05E0\u05BC|\u05E1\u05BC||\u05E3\u05BC|\u05E4\u05BC"),
   (0xFB46, "\u05E6\u05BC|\u05E7\u05BC|\u05E8\u05BC|\u05E9\u05BC|\u05EA\u05BC|\u05D5\u05B9"),
   (0xFB4C, "\u05D1\u05BF|\u05DB\u05BF|\u05E4\u05BF|\u05D0\u05DC"),
   (0xFBDD, "\u06C7\u0674"),
   (0xFBEA, "\u0626\u0627|\u0626\u0627|\u0626\u06D5|\u0626\u06D5|\u0626\u0648|\u0626\u0648"),
   (0xFBF0, "\u0626\u06C7|\u0626\u06C7|\u0626\u06C6|\u0626\u06C6|\u0626\u06C8|\u0626\u06C8"),
   (0xFBF6, "\u0626\u06D0|\u0626\u06D0|\u0626\u06D0|\u0626\u0649|\u0626\u0649|\u0626\u0649"),
   (0xFC00, "\u0626\u062C|\u0626\u062D|\u0626\u0645|\u0626\u0649|\u0626\u064A|\u0628\u062C"),
   (0xFC06, "\u0628\u062D|\u0628\u062E|\u0628\u0645|\u0628\u0649|\u0628\u064A|\u062A\u062C"),
   (0xFC0C, "\u062A\u062D|\u062A\u062E|\u062A\u0645|\u062A\u0649|\u062A\u064A|\u062B\u062C"),
   (0xFC12, "\u062B\u0645|\u062B\u0649|\u062B\u064A|\u062C\u062D|\u062C\u0645|\u062D\u062C"),
   (0xFC18, "\u062D\u0645|\u062E\u062C|\u062E\u062D|\u062E\u0645|\u0633\u062C|\u0633\u062D"),
   (0xFC1E, "\u0633\u062E|\u0633\u0645|\u0635\u062D|\u0635\u0645|\u0636\u062C|\u0636\u062D"),
   (0xFC24, "\u0636\u062E|\u0636\u0645|\u0637\u062D|\u0637\u0645|\u0638\u0645|\u0639\u062C"),
   (0xFC2A, "\u0639\u0645|\u063A\u062C|\u063A\u0645|\u0641\u062C|\u0641\u062D|\u0641\u062E"),
   (0xFC30, "\u0641\u0645|\u0641\u0649|\u0641\u064A|\u0642\u062D|\u0642\u0645|\u0642\u0649"),
   (0xFC36, "\u0642\u064A|\u0643\u0627|\u0643\u062C|\u0643\u062D|\u0643\u062E|\u0643\u0644"),
   (0xFC3C, "\u0643\u0645|\u0643\u0649|\u0643\u064A|\u0644\u062C|\u0644\u062D|\u0644\u062E"),
   (0xFC42, "\u0644\u0645|\u0644\u0649|\u0644\u064A|\u0645\u062C|\u0645\u062D|\u0645\u062E"),
   (0xFC48, "\u0645\u0645|\u0645\u0649|\u0645\u064A|\u0646\u062C|\u0646\u062D|\u0646\u062E"),
   (0xFC4E, "\u0646\u0645|\u0646\u0649|\u0646\u064A|\u0647\u062C|\u0647\u0645|\u0647\u0649"),
   (0xFC54, "\u0647\u064A|\u064A\u062C|\u064A\u062D|\u064A\u062E|\u064A\u0645|\u064A\u0649"),
   (0xFC5A, "\u064A\u064A|\u0630\u0670|\u0631\u0670|\u0649\u0670| \u064C\u0651| \u064D\u0651"),
   (0xFC60, " \u064E\u0651| \u064F\u0651| \u0650\u0651| \u0651\u0670|\u0626\u0631|\u0626\u0632"),
   (0xFC66, "\u0626\u0645|\u0626\u0646|\u0626\u0649|\u0626\u064A|\u0628\u0631|\u0628\u0632"),
   (0xFC6C, "\u0628\u0645|\u0628\u0646|\u0628\u0649|\u0628\u064A|\u062A\u0631|\u062A\u0632"),
   (0xFC72, "\u062A\u0645|\u062A\u0646|\u062A\u0649|\u062A\u064A|\u062B\u0631|\u062B\u0632"),
   (0xFC78, "\u062B\u0645|\u062B\u0646|\u062B\u0649|\u062B\u064A|\u0641\u0649|\u0641\u064A"),
   (0xFC7E, "\u0642\u0649|\u0642\u064A|\u0643\u0627|\u0643\u0644|\u0643\u0645|\u0643\u0649"),
   (0xFC84, "\u0643\u064A|\u0644\u0645|\u0644\u0649|\u0644\u064A|\u0645\u0627|\u0645\u0645"),
   (0xFC8A, "\u0646\u0631|\u0646\u0632|\u0646\u0645|\u0646\u0646|\u0646\u0649|\u0646\u064A"),
   (0xFC90, "\u0649\u0670|\u064A\u0631|\u064A\u0632|\u064A\u0645|\u064A\u0646|\u064A\u0649"),
   (0xFC96, "\u064A\u064A|\u0626\u062C|\u0626\u062D|\u0626\u062E|\u0626\u0645|\u0626\u0647"),
   (0xFC9C, "\u0628\u062C|\u0628\u062D|\u0628\u062E|\u0628\u0645|\u0628\u0647|\u062A\u062C"),
   (0xFCA2, "\u062A\u062D|\u062A\u062E|\u062A\u0645|\u062A\u0647|\u062B\u0645|\u062C\u062D"),
   (0xFCA8, "\u062C\u0645|\u062D\u062C|\u062D\u0645|\u062E\u062C|\u062E\u0645|\u0633\u062C"),
   (0xFCAE, "\u0633\u062D|\u0633\u062E|\u0633\u0645|\u0635\u062D|\u0635\u062E|\u0635\u0645"),
   (0xFCB4, "\u0636\u062C|\u0636\u062D|\u0636\u062E|\u0636\u0645|\u0637\u062D|\u0638\u0645"),
   (0xFCBA, "\u0639\u062C|\u0639\u0645|\u063A\u062C|\u063A\u0645|\u0641\u062C|\u0641\u062D"),
   (0xFCC0, "\u0641\u062E|\u0641\u0645|\u0642\u062D|\u0642\u0645|\u0643\u062C|\u0643\u062D"),
   (0xFCC6, "\u0643\u062E|\u0643\u0644|\u0643\u0645|\u0644\u062C|\u0644\u062D|\u0644\u062E"),
   (0xFCCC, "\u0644\u0645|\u0644\u0647|\u0645\u062C|\u0645\u062D|\u0645\u062E|\u0645\u0645"),
   (0xFCD2, "\u0646\u062C|\u0646\u062D|\u0646\u062E|\u0646\u0645|\u0646\u0647|\u0647\u062C"),
   (0xFCD8, "\u0647\u0645|\u0647\u0670|\u064A\u062C|\u064A\u062D|\u064A\u062E|\u064A\u0645"),
   (0xFCDE, "\u064A\u0647|\u0626\u0645|\u0626\u0647|\u0628\u0645|\u0628\u0647|\u062A\u0645"),
   (0xFCE4, "\u062A\u0647|\u062B\u0645|\u062B\u0647|\u0633\u0645|\u0633\u0647|\u0634\u0645"),
   (0xFCEA, "\u0634\u0647|\u0643\u0644|\u0643\u0645|\u0644\u0645|\u0646\u0645|\u0646\u0647"),
   (0xFCF0, "\u064A\u0645|\u064A\u0647|\u0640\u064E\u0651|\u0640\u064F\u0651|\u0640\u0650\u0651"),
   (0xFCF5, "\u0637\u0649|\u0637\u064A|\u0639\u0649|\u0639\u064A|\u063A\u0649|\u063A\u064A"),
   (0xFCFB, "\u0633\u0649|\u0633\u064A|\u0634\u0649|\u0634\u064A|\u062D\u0649|\u062D\u064A"),
   (0xFD01, "\u062C\u0649|\u062C\u064A|\u062E\u0649|\u062E\u064A|\u0635\u0649|\u0635\u064A"),
   (0xFD07, "\u0636\u0649|\u0636\u064A|\u0634\u062C|\u0634\u062D|\u0634\u062E|\u0634\u0645"),
   (0xFD0D, "\u0634\u0631|\u0633\u0631|\u0635\u0631|\u0636\u0631|\u0637\u0649|\u0637\u064A"),
   (0xFD13, "\u0639\u0649|\u0639\u064A|\u063A\u0649|\u063A\u064A|\u0633\u0649|\u0633\u064A"),
   (0xFD19, "\u0634\u0649|\u0634\u064A|\u062D\u0649|\u062D\u064A|\u062C\u0649|\u062C\u064A"),
   (0xFD1F, "\u062E\u0649|\u062E\u064A|\u0635\u0649|\u0635\u064A|\u0636\u0649|\u0636\u064A"),
   (0xFD25, "\u0634\u062C|\u0634\u062D|\u0634\u062E|\u0634\u0645|\u0634\u0631|\u0633\u0631"),
   (0xFD2B, "\u0635\u0631|\u0636\u0631|\u0634\u062C|\u0634\u062D|\u0634\u062E|\u0634\u0645"),
   (0xFD31, "\u0633\u0647|\u0634\u0647|\u0637\u0645|\u0633\u062C|\u0633\u062D|\u0633\u062E"),
   (0xFD37, "\u0634\u062C|\u0634\u062D|\u0634\u062E|\u0637\u0645|\u0638\u0645|\u0627\u064B"),
   (0xFD3D, "\u0627\u064B"),
   (0xFD50, "\u062A\u062C\u0645|\u062A\u062D\u062C|\u062A\u062D\u062C|\u062A\u062D\u0645"),
   (0xFD54, "\u062A\u062E\u0645|\u062A\u0645\u062C|\u062A\u0645\u062D|\u062A\u0645\u062E"),
   (0xFD58, "\u062C\u0645\u062D|\u062C\u0645\u062D|\u062D\u0645\u064A|\u062D\u0645\u0649"),
   (0xFD5C, "\u0633\u062D\u062C|\u0633\u062C\u062D|\u0633\u062C\u0649|\u0633\u0645\u062D"),
   (0xFD60, "\u0633\u0645\u062D|\u0633\u0645\u062C|\u0633\u0645\u0645|\u0633\u0645\u0645"),
   (0xFD64, "\u0635\u062D\u062D|\u0635\u062D\u062D|\u0635\u0645\u0645|\u0634\u062D\u0645"),
   (0xFD68, "\u0634\u062D\u0645|\u0634\u062C\u064A|\u0634\u0645\u062E|\u0634\u0645\u062E"),
   (0xFD6C, "\u0634\u0645\u0645|\u0634\u0645\u0645|\u0636\u062D\u0649|\u0636\u062E\u0645"),
   (0xFD70, "\u0636\u062E\u0645|\u0637\u0645\u062D|\u0637\u0645\u062D|\u0637\u0645\u0645"),
   (0xFD74, "\u0637\u0645\u064A|\u0639\u062C\u0645|\u0639\u0645\u0645|\u0639\u0645\u0645"),
   (0xFD78, "\u0639\u0645\u0649|\u063A\u0645\u0645|\u063A\u0645\u064A|\u063A\u0645\u0649"),
   (0xFD7C, "\u0641\u062E\u0645|\u0641\u062E\u0645|\u0642\u0645\u062D|\u0642\u0645\u0645"),
   (0xFD80, "\u0644\u062D\u0645|\u0644\u062D\u064A|\u0644\u062D\u0649|\u0644\u062C\u062C"),
   (0xFD84, "\u0644\u062C\u062C|\u0644\u062E\u0645|\u0644\u062E\u0645|\u0644\u0645\u062D"),
   (0xFD88, "\u0644\u0645\u062D|\u0645\u062D\u062C|\u0645\u062D\u0645|\u0645\u062D\u064A"),
   (0xFD8C, "\u0645\u062C\u062D|\u0645\u062C\u0645|\u0645\u062E\u062C|\u0645\u062E\u0645"),
   (0xFD92, "\u0645\u062C\u062E|\u0647\u0645\u062C|\u0647\u0645\u0645|\u0646\u062D\u0645"),
   (0xFD96, "\u0646\u062D\u0649|\u0646\u062C\u0645|\u0646\u062C\u0645|\u0646\u062C\u0649"),
   (0xFD9A, "\u0646\u0645\u064A|\u0646\u0645\u0649|\u064A\u0645\u0645|\u064A\u0645\u0645"),
   (0xFD9E, "\u0628\u062E\u064A|\u062A\u062C\u064A|\u062A\u062C\u0649|\u062A\u062E\u064A"),
   (0xFDA2, "\u062A\u062E\u0649|\u062A\u0645\u064A|\u062A\u0645\u0649|\u062C\u0645\u064A"),
   (0xFDA6, "\u062C\u062D\u0649|\u062C\u0645\u0649|\u0633\u062E\u0649|\u0635\u062D\u064A"),
   (0xFDAA, "\u0634\u062D\u064A|\u0636\u062D\u064A|\u0644\u062C\u064A|\u0644\u0645\u064A"),
   (0xFDAE, "\u064A\u062D\u064A|\u064A\u062C\u064A|\u064A\u0645\u064A|\u0645\u0645\u064A"),
   (0xFDB2, "\u0642\u0645\u064A|\u0646\u062D\u064A|\u0642\u0645\u062D|\u0644\u062D\u0645"),
   (0xFDB6, "\u0639\u0645\u064A|\u0643\u0645\u064A|\u0646\u062C\u062D|\u0645\u062E\u064A"),
   (0xFDBA, "\u0644\u062C\u0645|\u0643\u0645\u0645|\u0644\u062C\u0645|\u0646\u062C\u062D"),
   (0xFDBE, "\u062C\u062D\u064A|\u062D\u062C\u064A|\u0645\u062C\u064A|\u0641\u0645\u064A"),
   (0xFDC2, "\u0628\u062D\u064A|\u0643\u0645\u0645|\u0639\u062C\u0645|\u0635\u0645\u0645"),
   (0xFDC6, "\u0633\u062E\u064A|\u0646\u062C\u064A"),
   (0xFDF0, "\u0635\u0644\u06D2|\u0642\u0644\u06D2|\u0627\u0644\u0644\u0647"),
   (0xFDF3, "\u0627\u0643\u0628\u0631|\u0645\u062D\u0645\u062F|\u0635\u0644\u0639\u0645"),
   (0xFDF6, "\u0631\u0633\u0648\u0644|\u0639\u0644\u064A\u0647|\u0648\u0633\u0644\u0645"),
   (0xFDF9, "\u0635\u0644\u0649"),
   (0xFDFA, "\u0635\u0644\u0649 \u0627\u0644\u0644\u0647 " ++
      "\u0639\u0644\u064A\u0647 \u0648\u0633\u0644\u0645"),
   (0xFDFB, "\u062C\u0644 \u062C\u0644\u0627\u0644\u0647|\u0631\u06CC\u0627\u0644"),
   (0xFE49, " \u0305| \u0305| \u0305| \u0305"),
   (0xFE70, " \u064B|\u0640\u064B| \u064C|| \u064D|| \u064E|\u0640\u064E| \u064F|\u0640\u064F"),
   (0xFE7A, " \u0650|\u0640\u0650| \u0651|\u0640\u0651| \u0652|\u0640\u0652"),
   (0xFEF5, "\u0644\u0622|\u0644\u0622|\u0644\u0623|\u0644\u0623|\u0644\u0625|\u0644\u0625"),
   (0xFEFB, "\u0644\u0627|\u0644\u0627"),
   (0xFFE3, " \u0304"),
   (0x1D15E, "𝅗𝅥|𝅘𝅥|𝅘𝅥𝅮|𝅘𝅥𝅯|𝅘𝅥𝅰|𝅘𝅥𝅱|𝅘𝅥𝅲"),
   (0x1D1BB, "𝆹𝅥|𝆺𝅥|𝆹𝅥𝅮|𝆺𝅥𝅮|𝆹𝅥𝅯|𝆺𝅥𝅯"),
   (0x1F101, "0,|1,|2,|3,|4,|5,|6,|7,|8,|9,||||||(a)|(b)|(c)|(d)|(e)|(f)|(g)|(h)|(i)|(j)|(k)|(l)"),
   (0x1F11C, "(m)|(n)|(o)|(p)|(q)|(r)|(s)|(t)|(u)|(v)|(w)|(x)|(y)|(z)|〔s〕|||cd|wz"),
   (0x1F14A, "hv|mv|sd|ss|ppv|wc"),
   (0x1F16A, "mc|md|mr"),
   (0x1F190, "dj"),
   (0x1F200, "ほか|ココ"),
   (0x1F240, "〔本〕|〔三〕|〔二〕|〔安〕|〔点〕|〔打〕|〔盗〕|〔勝〕|〔敗〕")]

end OpenApiTools.Url.Domain
