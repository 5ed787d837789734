/-!
Month names in dates, by locale. Locales with the same names share an entry; the names stand in the
order of the months.
-/

namespace TimeMarkup

/-- The month names that some locales write in dates. -/
structure MonthNames where
  locales : List String
  names : List String

namespace MonthNames

def ofAToI : List MonthNames := [
  { locales := ["aa_DJ"]
    names := ["Qunxa Garablu", "Naharsi Kudo", "Ciggilta Kudo", "Agda Baxis", "Caxah Alsa",
      "Qasa Dirri", "Qado Dirri", "Leqeeni", "Waysu", "Diteli", "Ximoli", "Kaxxa Garablu"] },
  { locales := ["aa_ER", "aa_ET"]
    names := ["Qunxa Garablu", "Naharsi Kudo", "Ciggilta Kudo", "Agda Baxis", "Caxah Alsa",
      "Qasa Dirri", "Qado Dirri", "Liiqen", "Waysu", "Diteli", "Ximoli", "Kaxxa Garablu"] },
  { locales := ["af_ZA"]
    names := ["Januarie", "Februarie", "Maart", "April", "Mei", "Junie", "Julie", "Augustus",
      "September", "Oktober", "November", "Desember"] },
  { locales := ["agr_PE"]
    names := ["Petsatin", "Kupitin", "Uyaitin", "Tayutin", "Kegketin", "Tegmatin", "Kuntutin",
      "Yagkujutin", "Daiktatin", "Ipamtatin", "Shinutin", "Sakamtin"] },
  { locales := ["ak_GH"]
    names := ["Sanda-Ɔpɛpɔn", "Kwakwar-Ɔgyefuo", "Ebɔw-Ɔbenem", "Ebɔbira-Oforisuo",
      "Esusow Aketseaba-Kɔtɔnimba", "Obirade-Ayɛwohomumu", "Ayɛwoho-Kitawonsa", "Difuu-Ɔsandaa",
      "Fankwa-Ɛbɔ", "Ɔbɛsɛ-Ahinime", "Ɔberɛfɛw-Obubuo", "Mumu-Ɔpɛnimba"] },
  { locales := ["am_ET"]
    names := ["ጃንዩወሪ", "ፌብሩወሪ", "ማርች", "ኤፕሪል", "ሜይ", "ጁን", "ጁላይ", "ኦገስት", "ሴፕቴምበር", "ኦክቶበር",
      "ኖቬምበር", "ዲሴምበር"] },
  { locales := ["an_ES"]
    names := ["chinero", "febrero", "marzo", "abril", "mayo", "chunyo", "chuliol", "agosto",
      "setiembre", "octubre", "noviembre", "aviento"] },
  { locales := ["anp_IN", "raj_IN"]
    names := ["जनवरी", "फरवरी", "मार्च", "अप्रैल", "मई", "जून", "जुलाई", "अगस्त", "सितंबर",
      "अक्टूबर", "नवंबर", "दिसंबर"] },
  { locales := ["ar_AE", "ar_BH", "ar_EG", "ar_IN", "ar_KW", "ar_LY", "ar_OM", "ar_QA", "ar_SA",
      "ar_SD", "ar_SS", "ar_YE"]
    names := ["يناير", "فبراير", "مارس", "أبريل", "مايو", "يونيو", "يوليو", "أغسطس", "سبتمبر",
      "أكتوبر", "نوفمبر", "ديسمبر"] },
  { locales := ["ar_DZ", "ar_TN"]
    names := ["جانفي", "فيفري", "مارس", "أفريل", "ماي", "جوان", "جويلية", "أوت", "سبتمبر",
      "أكتوبر", "نوفمبر", "ديسمبر"] },
  { locales := ["ar_IQ", "ar_JO", "ar_LB", "ar_SY"]
    names := ["كانون الثاني", "شباط", "آذار", "نيسان", "أيار", "حزيران", "تموز", "آب", "أيلول",
      "تشرين الأول", "تشرين الثاني", "كانون الأول"] },
  { locales := ["ar_MA"]
    names := ["يناير", "فبراير", "مارس", "أبريل", "ماي", "يونيو", "يوليوز", "غشت", "شتنبر",
      "أكتوبر", "نونبر", "دجنبر"] },
  { locales := ["as_IN"]
    names := ["জানুৱাৰী", "ফেব্ৰুৱাৰী", "মাৰ্চ", "এপ্ৰিল", "মে", "জুন", "জুলাই", "আগষ্ট",
      "ছেপ্তেম্বৰ", "অক্টোবৰ", "নৱেম্বৰ", "ডিচেম্বৰ"] },
  { locales := ["ast_ES"]
    names := ["de xineru", "de febreru", "de marzu", "d’abril", "de mayu", "de xunu", "de xunetu",
      "d’agostu", "de setiembre", "d’ochobre", "de payares", "d’avientu"] },
  { locales := ["ayc_PE"]
    names := ["inïru", "phiwriru", "marsu", "awrila", "mayu", "junyu", "julyu", "awustu",
      "sitimri", "uktuwri", "nuwimri", "risimri"] },
  { locales := ["az_AZ", "ber_DZ", "ber_MA"]
    names := ["yanvar", "fevral", "mart", "aprel", "may", "iyun", "iyul", "avqust", "sentyabr",
      "oktyabr", "noyabr", "dekabr"] },
  { locales := ["az_IR"]
    names := ["ژانویه", "فوریه", "مارس", "آوریل", "مئی", "ژوئن", "جولای", "آقۇست", "سپتامبر",
      "اوْکتوْبر", "نوْوامبر", "دسامبر"] },
  { locales := ["be_BY"]
    names := ["студзеня", "лютага", "сакавіка", "красавіка", "мая", "чэрвеня", "ліпеня", "жніўня",
      "верасня", "кастрычніка", "лістапада", "снежня"] },
  { locales := ["bem_ZM"]
    names := ["Januari", "Februari", "Machi", "Epreo", "Mei", "Juni", "Julai", "Ogasti",
      "Septemba", "Oktoba", "Novemba", "Disemba"] },
  { locales := ["bg_BG"]
    names := ["януари", "февруари", "март", "април", "май", "юни", "юли", "август", "септември",
      "октомври", "ноември", "декември"] },
  { locales := ["bhb_IN", "en_AG", "en_AU", "en_BW", "en_CA", "en_DK", "en_GB", "en_HK", "en_IE",
      "en_IL", "en_IN", "en_NG", "en_NZ", "en_PH", "en_SC", "en_SG", "en_US", "en_ZA", "en_ZM",
      "en_ZW", "hif_FJ", "sid_ET"]
    names := ["January", "February", "March", "April", "May", "June", "July", "August",
      "September", "October", "November", "December"] },
  { locales := ["bho_IN", "bho_NP"]
    names := ["जनवरी", "फरवरी", "मार्च", "अप्रैल", "मई", "जून", "जुलाई", "अगस्त", "सितम्बर",
      "अक्टूबर", "नवम्बर", "दिसम्बर"] },
  { locales := ["bi_VU"]
    names := ["Jenuware", "Febwari", "Maj", "Epril", "Mei", "Jun", "Julae", "Ogis", "Septemba",
      "Oktoba", "Novemba", "Disemba"] },
  { locales := ["bn_BD", "bn_IN"]
    names := ["জানুয়ারী", "ফেব্রুয়ারী", "মার্চ", "এপ্রিল", "মে", "জুন", "জুলাই", "আগস্ট",
      "সেপ্টেম্বর", "অক্টোবর", "নভেম্বর", "ডিসেম্বর"] },
  { locales := ["bo_CN", "bo_IN", "dz_BT"]
    names := ["ཟླ་བ་དང་པ་", "ཟླ་བ་གཉིས་པ་", "ཟླ་བ་གསུམ་པ་", "ཟླ་བ་བཞི་པ་", "ཟླ་བ་ལྔ་ཕ་",
      "ཟླ་བ་དྲུག་པ་", "ཟླ་བ་བདུནཔ་", "ཟླ་བ་བརྒྱད་པ་", "ཟླ་བ་དགུ་པ་", "ཟླ་བ་བཅུ་པ་",
      "ཟླ་བ་བཅུ་གཅིག་པ་", "ཟླ་བ་བཅུ་གཉིས་པ་"] },
  { locales := ["br_FR"]
    names := ["Genver", "Cʼhwevrer", "Meurzh", "Ebrel", "Mae", "Mezheven", "Gouere", "Eost",
      "Gwengolo", "Here", "Du", "Kerzu"] },
  { locales := ["brx_IN"]
    names := ["जानुवारी", "फेब्रुवारी", "मार्स", "एफ्रिल", "मे", "जुन", "जुलाइ", "आगस्थ",
      "सेबथेज्ब़र", "अखथबर", "नबेज्ब़र", "दिसेज्ब़र"] },
  { locales := ["bs_BA"]
    names := ["Januar", "Februar", "Mart", "April", "Maj", "Juni", "Juli", "August", "Septembar",
      "Oktobar", "Novembar", "Decembar"] },
  { locales := ["byn_ER"]
    names := ["ልደትሪ", "ካብኽብቲ", "ክብላ", "ፋጅኺሪ", "ክቢቅሪ", "ምኪኤል ትጓ̅ኒሪ", "ኰርኩ", "ማርያም ትሪ", "ያኸኒ መሳቅለሪ",
      "መተሉ", "ምኪኤል መሽወሪ", "ተሕሳስሪ"] },
  { locales := ["ca_AD", "ca_ES", "ca_FR", "ca_IT"]
    names := ["de gener", "de febrer", "de març", "d’abril", "de maig", "de juny", "de juliol",
      "d’agost", "de setembre", "d’octubre", "de novembre", "de desembre"] },
  { locales := ["ce_RU"]
    names := ["Январь", "Февраль", "Март", "Апрель", "Май", "Июнь", "Июль", "Август", "Сентябрь",
      "Октябрь", "Ноябрь", "Декабрь"] },
  { locales := ["chr_US"]
    names := ["ᎤᏃᎸᏔᏅ", "ᎧᎦᎵ", "ᎠᏅᏱ", "ᎧᏬᏂ", "ᎠᏂᏍᎬᏘ", "ᏕᎭᎷᏱ", "ᎫᏰᏉᏂ", "ᎦᎶᏂ", "ᏚᎵᏍᏗ", "ᏚᏂᏅᏗ",
      "ᏅᏓᏕᏆ", "ᎥᏍᎩᏱ"] },
  { locales := ["cmn_TW", "hak_TW", "lzh_TW", "nan_TW"]
    names := ["一月", "二月", "三月", "四月", "五月", "六月", "七月", "八月", "九月", "十月", "十一月", "十二月"] },
  { locales := ["crh_UA"]
    names := ["Yanvar", "Fevral", "Mart", "Aprel", "Mayıs", "İyun", "İyul", "Avgust", "Sentâbr",
      "Oktâbr", "Noyabr", "Dekabr"] },
  { locales := ["cs_CZ"]
    names := ["ledna", "února", "března", "dubna", "května", "června", "července", "srpna",
      "září", "října", "listopadu", "prosince"] },
  { locales := ["csb_PL"]
    names := ["stëcznika", "gromicznika", "strëmiannika", "łżëkwiata", "maja", "czerwińca",
      "lëpińca", "zélnika", "séwnika", "rujana", "lëstopadnika", "gòdnika"] },
  { locales := ["cv_RU"]
    names := ["kărlac", "narăs", "puš", "aka", "şu", "şĕrtme", "ută", "şurla", "avăn", "jupa",
      "cük", "raštav"] },
  { locales := ["cy_GB"]
    names := ["Ionawr", "Chwefror", "Mawrth", "Ebrill", "Mai", "Mehefin", "Gorffennaf", "Awst",
      "Medi", "Hydref", "Tachwedd", "Rhagfyr"] },
  { locales := ["da_DK"]
    names := ["januar", "februar", "marts", "april", "maj", "juni", "juli", "august", "september",
      "oktober", "november", "december"] },
  { locales := ["de_AT", "de_IT"]
    names := ["Jänner", "Februar", "März", "April", "Mai", "Juni", "Juli", "August", "September",
      "Oktober", "November", "Dezember"] },
  { locales := ["de_BE", "de_CH", "de_DE", "de_LI", "de_LU"]
    names := ["Januar", "Februar", "März", "April", "Mai", "Juni", "Juli", "August", "September",
      "Oktober", "November", "Dezember"] },
  { locales := ["doi_IN"]
    names := ["जनवरी", "फरवरी", "मार्च", "एप्रैल", "मेई", "जून", "जूलै", "अगस्त", "सितंबर",
      "अक्तूबर", "नवंबर", "दिसंबर"] },
  { locales := ["dsb_DE"]
    names := ["januara", "februara", "měrca", "apryla", "maja", "junija", "julija", "awgusta",
      "septembra", "oktobra", "nowembra", "decembra"] },
  { locales := ["dv_MV"]
    names := ["ޖެނުއަރީ", "ފެބްރުއަރީ", "މާރޗް", "އެޕްރީލް", "މެއި", "ޖޫން", "ޖުލައި", "އޮގަސްޓް",
      "ސެޕްޓެންބަރ", "އޮކްޓޫބަރ", "ނޮވެންބަރ", "ޑިސެންބަރ"] },
  { locales := ["el_CY", "el_GR"]
    names := ["Ιανουαρίου", "Φεβρουαρίου", "Μαρτίου", "Απριλίου", "Μαΐου", "Ιουνίου", "Ιουλίου",
      "Αυγούστου", "Σεπτεμβρίου", "Οκτωβρίου", "Νοεμβρίου", "Δεκεμβρίου"] },
  { locales := ["es_AR", "es_BO", "es_CL", "es_CO", "es_CR", "es_CU", "es_DO", "es_EC", "es_ES",
      "es_GT", "es_HN", "es_MX", "es_NI", "es_PA", "es_PR", "es_PY", "es_SV", "es_US", "es_VE",
      "nhn_MX"]
    names := ["enero", "febrero", "marzo", "abril", "mayo", "junio", "julio", "agosto",
      "septiembre", "octubre", "noviembre", "diciembre"] },
  { locales := ["es_PE", "es_UY"]
    names := ["enero", "febrero", "marzo", "abril", "mayo", "junio", "julio", "agosto",
      "setiembre", "octubre", "noviembre", "diciembre"] },
  { locales := ["et_EE"]
    names := ["jaanuar", "veebruar", "märts", "aprill", "mai", "juuni", "juuli", "august",
      "september", "oktoober", "november", "detsember"] },
  { locales := ["eu_ES"]
    names := ["urtarrila", "otsaila", "martxoa", "apirila", "maiatza", "ekaina", "uztaila",
      "abuztua", "iraila", "urria", "azaroa", "abendua"] },
  { locales := ["fa_IR"]
    names := ["ژانویه", "فوریه", "مارس", "آوریل", "مه", "ژوئن", "ژوئیه", "اوت", "سپتامبر",
      "اكتبر", "نوامبر", "دسامبر"] },
  { locales := ["ff_SN"]
    names := ["siilo", "colte", "mbooy", "seeɗto", "duujal", "korse", "morso", "juko", "siilto",
      "yarkomaa", "jolal", "bowte"] },
  { locales := ["fi_FI"]
    names := ["tammikuu", "helmikuu", "maaliskuu", "huhtikuu", "toukokuu", "kesäkuu", "heinäkuu",
      "elokuu", "syyskuu", "lokakuu", "marraskuu", "joulukuu"] },
  { locales := ["fil_PH"]
    names := ["Enero", "Pebrero", "Marso", "Abril", "Mayo", "Hunyo", "Hulyo", "Agosto",
      "Setyembre", "Oktubre", "Nobyembre", "Disyembre"] },
  { locales := ["fo_FO"]
    names := ["januar", "februar", "mars", "apríl", "mai", "juni", "juli", "august", "september",
      "oktober", "november", "desember"] },
  { locales := ["fr_BE", "fr_CA", "fr_CH", "fr_FR", "fr_LU"]
    names := ["janvier", "février", "mars", "avril", "mai", "juin", "juillet", "août",
      "septembre", "octobre", "novembre", "décembre"] },
  { locales := ["fur_IT"]
    names := ["Zenâr", "Fevrâr", "Març", "Avrîl", "Mai", "Jugn", "Lui", "Avost", "Setembar",
      "Otubar", "Novembar", "Dicembar"] },
  { locales := ["fy_DE", "nds_NL"]
    names := ["Jaunuwoa", "Februwoa", "Moaz", "Aprell", "Mai", "Juni", "Juli", "August",
      "Septamba", "Oktoba", "Nowamba", "Dezamba"] },
  { locales := ["fy_NL"]
    names := ["Jannewaris", "Febrewaris", "Maart", "April", "Maaie", "Juny", "July", "Augustus",
      "Septimber", "Oktober", "Novimber", "Desimber"] },
  { locales := ["ga_IE"]
    names := ["Eanáir", "Feabhra", "Márta", "Aibreán", "Bealtaine", "Meitheamh", "Iúil", "Lúnasa",
      "Meán Fómhair", "Deireadh Fómhair", "Samhain", "Nollaig"] },
  { locales := ["gd_GB"]
    names := ["dhen Fhaoilleach", "dhen Ghearran", "dhen Mhàrt", "dhen Ghiblean", "dhen Chèitean",
      "dhen Ògmhios", "dhen Iuchar", "dhen Lùnastal", "dhen t-Sultain", "dhen Dàmhair",
      "dhen t-Samhain", "dhen Dùbhlachd"] },
  { locales := ["gez_ER"]
    names := ["ጠሐረ", "ከተተ", "መገበ", "አኀዘ", "ግንባት", "ሠንየ", "ሐመለ", "ነሐሰ", "ከረመ", "ጠቀመ", "ኀደረ",
      "ኀሠሠ"] },
  { locales := ["gez_ET", "ti_ET", "wal_ET"]
    names := ["ጃንዩወሪ", "ፌብሩወሪ", "ማርች", "ኤፕረል", "ሜይ", "ጁን", "ጁላይ", "ኦገስት", "ሴፕቴምበር", "ኦክተውበር",
      "ኖቬምበር", "ዲሴምበር"] },
  { locales := ["gl_ES"]
    names := ["Xaneiro", "Febreiro", "Marzo", "Abril", "Maio", "Xuño", "Xullo", "Agosto",
      "Setembro", "Outubro", "Novembro", "Decembro"] },
  { locales := ["gu_IN"]
    names := ["જાન્યુઆરી", "ફેબ્રુઆરી", "માર્ચ", "એપ્રિલ", "મે", "જૂન", "જુલાઈ", "ઑગસ્ટ",
      "સપ્ટેમ્બર", "ઑક્ટોબર", "નવેમ્બર", "ડિસેમ્બર"] },
  { locales := ["gv_GB"]
    names := ["Jerrey-geuree", "Toshiaght-arree", "Mayrnt", "Averil", "Boaldyn", "Mean-souree",
      "Jerrey-souree", "Luanistyn", "Mean-fouyir", "Jerrey-fouyir", "Mee Houney",
      "Mee ny Nollick"] },
  { locales := ["ha_NG"]
    names := ["Janairu", "Faburairu", "Maris", "Afirilu", "Mayu", "Yuni", "Yuli", "Agusta",
      "Satumba", "Oktoba", "Nuwamba", "Disamba"] },
  { locales := ["he_IL"]
    names := ["ינואר", "פברואר", "מרץ", "אפריל", "מאי", "יוני", "יולי", "אוגוסט", "ספטמבר",
      "אוקטובר", "נובמבר", "דצמבר"] },
  { locales := ["hi_IN"]
    names := ["जनवरी", "फ़रवरी", "मार्च", "अप्रैल", "मई", "जून", "जुलाई", "अगस्त", "सितंबर",
      "अक्तूबर", "नवंबर", "दिसंबर"] },
  { locales := ["hne_IN"]
    names := ["जनवरी", "फरवरी", "मार्च", "अपरेल", "मई", "जून", "जुलाई", "अगस्त", "सितमबर",
      "अकटूबर", "नवमबर", "दिसमबर"] },
  { locales := ["hr_HR"]
    names := ["siječnja", "veljače", "ožujka", "travnja", "svibnja", "lipnja", "srpnja",
      "kolovoza", "rujna", "listopada", "studenoga", "prosinca"] },
  { locales := ["hsb_DE"]
    names := ["januara", "februara", "měrca", "apryla", "meje", "junija", "julija", "awgusta",
      "septembra", "oktobra", "nowembra", "decembra"] },
  { locales := ["ht_HT"]
    names := ["janvye", "fevriye", "mas", "avril", "me", "jen", "jiyè", "out", "septanm", "oktòb",
      "novanm", "desanm"] },
  { locales := ["hu_HU"]
    names := ["január", "február", "március", "április", "május", "június", "július", "augusztus",
      "szeptember", "október", "november", "december"] },
  { locales := ["hy_AM"]
    names := ["հունվարի", "փետրվարի", "մարտի", "ապրիլի", "մայիսի", "հունիսի", "հուլիսի",
      "օգոստոսի", "սեպտեմբերի", "հոկտեմբերի", "նոյեմբերի", "դեկտեմբերի"] },
  { locales := ["ia_FR"]
    names := ["januario", "februario", "martio", "april", "maio", "junio", "julio", "augusto",
      "septembre", "octobre", "novembre", "decembre"] },
  { locales := ["id_ID"]
    names := ["Januari", "Februari", "Maret", "April", "Mei", "Juni", "Juli", "Agustus",
      "September", "Oktober", "November", "Desember"] },
  { locales := ["ig_NG"]
    names := ["Jenụwarị", "Febrụwarị", "Maachị", "Eprel", "Mee", "Juun", "Julaị", "Ọgọọst",
      "Septemba", "Ọktoba", "Novemba", "Disemba"] },
  { locales := ["ik_CA"]
    names := ["Siqiññaatchiaq", "Siqiññaasrugruk", "Paniqsiqsiivik", "Qilġich Tatqiat",
      "Suppivik", "Iġñivik", "Itchavik", "Tiññivik", "Amiġaiqsivik", "Sikkuvik", "Nippivik",
      "Siqiñġiḷaq"] },
  { locales := ["is_IS"]
    names := ["janúar", "febrúar", "mars", "apríl", "maí", "júní", "júlí", "ágúst", "september",
      "október", "nóvember", "desember"] },
  { locales := ["it_CH", "it_IT"]
    names := ["gennaio", "febbraio", "marzo", "aprile", "maggio", "giugno", "luglio", "agosto",
      "settembre", "ottobre", "novembre", "dicembre"] },
  { locales := ["iu_CA"]
    names := ["ᔮᓄᐊᓕ", "ᕕᕗᐊᓕ", "ᒪᔅᓯ", "ᐃᐳᓗ", "ᒪᐃ", "ᔪᓂ", "ᔪᓚᐃ", "ᐊᒋᓯ", "ᓯᑎᕙ", "ᐊᑦᑐᕙ", "ᓄᕕᕙ",
      "ᑎᓯᕝᕙ"] }]

def ofJToZ : List MonthNames := [
  { locales := ["ja_JP"]
    names := ["1月", "2月", "3月", "4月", "5月", "6月", "7月", "8月", "9月", "10月", "11月", "12月"] },
  { locales := ["ko_KR"]
    names := ["1월", "2월", "3월", "4월", "5월", "6월", "7월", "8월", "9월", "10월", "11월", "12월"] },
  { locales := ["zh_CN", "zh_HK", "zh_SG", "zh_TW"]
    names := ["一月", "二月", "三月", "四月", "五月", "六月", "七月", "八月", "九月", "十月", "十一月", "十二月"] },
  { locales := ["ka_GE"]
    names := ["იანვარი", "თებერვალი", "მარტი", "აპრილი", "მაისი", "ივნისი", "ივლისი", "აგვისტო",
      "სექტემბერი", "ოქტომბერი", "ნოემბერი", "დეკემბერი"] },
  { locales := ["kab_DZ"]
    names := ["Yennayer", "Fuṛar", "Meɣres", "Yebrir", "Mayyu", "Yunyu", "Yulyu", "ɣuct",
      "Ctembeṛ", "Tubeṛ", "Wambeṛ", "Dujembeṛ"] },
  { locales := ["kk_KZ"]
    names := ["Қаңтар", "Ақпан", "Наурыз", "Сәуір", "Мамыр", "Маусым", "Шілде", "Тамыз",
      "Қыркүйек", "Қазан", "Қараша", "Желтоқсан"] },
  { locales := ["kl_GL"]
    names := ["januaarip", "februaarip", "marsip", "apriilip", "maajip", "juunip", "juulip",
      "aggustip", "septembarip", "oktobarip", "novembarip", "decembarip"] },
  { locales := ["km_KH"]
    names := ["មករា", "កុម្ភៈ", "មីនា", "មេសា", "ឧសភា", "មិថុនា", "កក្កដា", "សីហា", "កញ្ញា",
      "តុលា", "វិច្ឆិកា", "ធ្នូ"] },
  { locales := ["kn_IN"]
    names := ["ಜನವರಿ", "ಫೆಬ್ರವರಿ", "ಮಾರ್ಚ್", "ಏಪ್ರಿಲ್", "ಮೇ", "ಜೂನ್", "ಜುಲೈ", "ಆಗಸ್ಟ್",
      "ಸೆಪ್ಟೆಂಬರ್", "ಅಕ್ಟೋಬರ್", "ನವೆಂಬರ್", "ಡಿಸೆಂಬರ್"] },
  { locales := ["kok_IN"]
    names := ["जानेवारी", "फेब्रुवारी", "मार्च", "एप्रिल", "मे", "जून", "जुलै", "ओगस्ट",
      "सेप्टेंबर", "ओक्टोबर", "नोव्हेंबर", "डिसेंबर"] },
  { locales := ["ks_IN"]
    names := ["جنؤری", "فرؤری", "مارٕچ", "اپریل", "میٔ", "جوٗن", "جوٗلایی", "اگست", "ستمبر",
      "اکتوٗبر", "نومبر", "دسمبر"] },
  { locales := ["ku_TR"]
    names := ["Çile", "Sibat", "Adar", "Nîsan", "Gulan", "Hezîran", "Tîrmeh", "Tebax", "Îlon",
      "Cotmeh", "Mijdar", "Kanûn"] },
  { locales := ["kw_GB"]
    names := ["mis Genver", "mis Hwevrer", "mis Meurth", "mis Ebrel", "mis Me", "mis Metheven",
      "mis Gortheren", "mis Est", "mis Gwynngala", "mis Hedra", "mis Du", "mis Kevardhu"] },
  { locales := ["ky_KG"]
    names := ["январь", "февраль", "март", "апрель", "май", "июнь", "июль", "август", "сентябрь",
      "октябрь", "ноябрь", "декабрь"] },
  { locales := ["lb_LU"]
    names := ["Januar", "Februar", "Mäerz", "Abrëll", "Mee", "Juni", "Juli", "August",
      "September", "Oktober", "November", "Dezember"] },
  { locales := ["lg_UG"]
    names := ["Janwaliyo", "Febwaliyo", "Marisi", "Apuli", "Maayi", "Juuni", "Julaayi", "Agusito",
      "Sebuttemba", "Okitobba", "Novemba", "Desemba"] },
  { locales := ["li_BE", "li_NL"]
    names := ["jannewarie", "fibberwarie", "miert", "eprèl", "meij", "junie", "julie", "augustus",
      "september", "oktober", "november", "desember"] },
  { locales := ["lij_IT"]
    names := ["zenâ", "fevrâ", "marzo", "avrî", "mazzo", "zûgno", "lûggio", "agosto", "settembre",
      "ottobre", "novembre", "dixembre"] },
  { locales := ["ln_CD"]
    names := ["sánzá ya yambo", "sánzá ya míbalé", "sánzá ya mísáto", "sánzá ya mínei",
      "sánzá ya mítáno", "sánzá ya motóbá", "sánzá ya nsambo", "sánzá ya mwambe",
      "sánzá ya libwa", "sánzá ya zómi", "sánzá ya zómi na mɔ̌kɔ́", "sánzá ya zómi na míbalé"] },
  { locales := ["lo_LA"]
    names := ["ມັງກອນ", "ກຸມພາ", "ມີນາ", "ເມສາ", "ພຶດສະພາ", "ມິຖຸນາ", "ກໍລະກົດ", "ສິງຫາ", "ກັນຍາ",
      "ຕຸລາ", "ພະຈິກ", "ທັນວາ"] },
  { locales := ["lt_LT"]
    names := ["sausio", "vasario", "kovo", "balandžio", "gegužės", "birželio", "liepos",
      "rugpjūčio", "rugsėjo", "spalio", "lapkričio", "gruodžio"] },
  { locales := ["lv_LV"]
    names := ["janvāris", "februāris", "marts", "aprīlis", "maijs", "jūnijs", "jūlijs", "augusts",
      "septembris", "oktobris", "novembris", "decembris"] },
  { locales := ["mag_IN", "sa_IN", "the_NP"]
    names := ["जनवरी", "फ़रवरी", "मार्च", "अप्रेल", "मई", "जून", "जुलाई", "अगस्त", "सितम्बर",
      "अक्टूबर", "नवम्बर", "दिसम्बर"] },
  { locales := ["mai_IN", "mai_NP"]
    names := ["बैसाख", "जेठ", "अषाढ़", "सावोन", "भादो", "आसिन", "कातिक", "अगहन", "पूस", "माघ",
      "फागुन", "चैति"] },
  { locales := ["mfe_MU"]
    names := ["zanvie", "fevriye", "mars", "avril", "me", "zin", "zilye", "out", "septam",
      "oktob", "novam", "desam"] },
  { locales := ["mg_MG"]
    names := ["Janoary", "Febroary", "Martsa", "Aprily", "Mey", "Jona", "Jolay", "Aogositra",
      "Septambra", "Oktobra", "Novambra", "Desambra"] },
  { locales := ["mhr_RU"]
    names := ["Шорыкйол", "Пургыж", "Ӱярня", "Вӱдшор", "Ага", "Пеледыш", "Сӱрем", "Сорла", "Идым",
      "Шыжа", "Кылме", "Теле"] },
  { locales := ["mi_NZ"]
    names := ["Kohi-tātea", "Hui-tanguru", "Poutū-te-rangi", "Paenga-whāwhā", "Haratua", "Pipiri",
      "Hōngoingoi", "Here-turi-kōkā", "Mahuru", "Whiringa-ā-nuku", "Whiringa-ā-rangi", "Hakihea"] },
  { locales := ["miq_NI"]
    names := ["siakwa kati", "kuswa kati", "kakamuk kati", "lî wainhka kati", "lih mairin kati",
      "lî kati", "pastara kati", "sikla kati", "wîs kati", "waupasa kati", "yahbra kati",
      "trisu kati"] },
  { locales := ["mjw_IN"]
    names := ["Arkoi", "Thangthang", "There", "Jangmi", "Aru", "Vosik", "Jakhong", "Paipai",
      "Chiti", "Phere", "Phaikuni", "Matijong"] },
  { locales := ["mk_MK"]
    names := ["јануари", "февруари", "март", "април", "мај", "јуни", "јули", "август",
      "септември", "октомври", "ноември", "декември"] },
  { locales := ["ml_IN"]
    names := ["ജനുവരി", "ഫെബ്രുവരി", "മാർച്ച്", "ഏപ്രിൽ", "മേയ്", "ജൂൺ", "ജൂലൈ", "ഓഗസ്റ്റ്",
      "സെപ്റ്റംബർ", "ഒക്‌ടോബർ", "നവംബർ", "ഡിസംബർ"] },
  { locales := ["mn_MN"]
    names := ["Нэгдүгээр сар", "Хоёрдугаар сар", "Гуравдугаар сар", "Дөрөвдүгээр сар",
      "Тавдугаар сар", "Зургадугаар сар", "Долдугаар сар", "Наймдугаар сар", "Есдүгээр сар",
      "Аравдугаар сар", "Арван нэгдүгээр сар", "Арван хоёрдугаар сар"] },
  { locales := ["mni_IN"]
    names := ["জানুৱারি", "ফেব্রুৱারি", "মার্চ", "এপ্রিল", "মে", "জুন", "জুলাই", "আগষ্ট",
      "সেপ্তেম্বর", "ওক্তোবর", "নবেম্বর", "ডিসেম্বর"] },
  { locales := ["mnw_MM"]
    names := ["ဂျာန်နျူအာရဳ", "ဝှေဝ်ဗြူအာရဳ", "မာတ်ချ်", "အေပြေယ်လ်", "မေ", "ဂျုန်", "ဂျူလာၚ်",
      "အဝ်ဂါတ်", "သိပ်တီဗာ", "အံက်တဝ်ဗာ", "နဝ်ဝါမ်ဗာ", "ဒဳသီဗာ"] },
  { locales := ["mr_IN"]
    names := ["जानेवारी", "फेब्रुवारी", "मार्च", "एप्रिल", "मे", "जून", "जुलै", "ऑगस्ट",
      "सप्टेंबर", "ऑक्टोबर", "नोव्हेंबर", "डिसेंबर"] },
  { locales := ["ms_MY"]
    names := ["Januari", "Februari", "Mac", "April", "Mei", "Jun", "Julai", "Ogos", "September",
      "Oktober", "November", "Disember"] },
  { locales := ["mt_MT"]
    names := ["Jannar", "Frar", "Marzu", "April", "Mejju", "Ġunju", "Lulju", "Awwissu",
      "Settembru", "Ottubru", "Novembru", "Diċembru"] },
  { locales := ["my_MM"]
    names := ["ဇန်နဝါရီ", "ဖေဖော်ဝါရီ", "မတ်", "ဧပြီ", "မေ", "ဇွန်", "ဇူလိုင်", "ဩဂုတ်",
      "စက်တင်ဘာ", "အောက်တိုဘာ", "နိုဝင်ဘာ", "ဒီဇင်ဘာ"] },
  { locales := ["nb_NO", "nn_NO"]
    names := ["januar", "februar", "mars", "april", "mai", "juni", "juli", "august", "september",
      "oktober", "november", "desember"] },
  { locales := ["nds_DE"]
    names := ["Jannuaar", "Feberwaar", "März", "April", "Mai", "Juni", "Juli", "August",
      "September", "Oktober", "November", "Dezember"] },
  { locales := ["ne_NP"]
    names := ["जनवरी", "फेब्रुअरी", "मार्च", "अप्रिल", "मे", "जुन", "जुलाई", "अगस्ट",
      "सेप्टेम्बर", "अक्टोबर", "नोभेम्बर", "डिसेम्बर"] },
  { locales := ["niu_NU", "niu_NZ"]
    names := ["Ianuali", "Fepuali", "Masi", "Apelila", "Me", "Iuni", "Iulai", "Aokuso",
      "Sepetema", "Oketopa", "Novema", "Tesemo"] },
  { locales := ["nl_AW", "nl_BE", "nl_NL"]
    names := ["januari", "februari", "maart", "april", "mei", "juni", "juli", "augustus",
      "september", "oktober", "november", "december"] },
  { locales := ["nr_ZA"]
    names := ["Janabari", "uFeberbari", "uMatjhi", "u-Apreli", "Meyi", "Juni", "Julayi",
      "Arhostosi", "Septemba", "Oktoba", "Usinyikhaba", "Disemba"] },
  { locales := ["nso_ZA"]
    names := ["Janaware", "Febereware", "Matšhe", "Aprele", "Mei", "June", "Julae", "Agostose",
      "Setemere", "Oktobere", "Nofemere", "Disemere"] },
  { locales := ["oc_FR"]
    names := ["de genièr", "de febrièr", "de març", "d’abrial", "de mai", "de junh", "de julhet",
      "d’agost", "de setembre", "d’octòbre", "de novembre", "de decembre"] },
  { locales := ["om_ET", "om_KE"]
    names := ["Amajjii", "Guraandhala", "Bitooteessa", "Elba", "Caamsa", "Waxabajjii",
      "Adooleessa", "Hagayya", "Fuulbana", "Onkololeessa", "Sadaasa", "Muddee"] },
  { locales := ["or_IN"]
    names := ["ଜାନୁଆରୀ", "ଫେବୃଆରୀ", "ମାର୍ଚ୍ଚ", "ଅପ୍ରେଲ", "ମଇ", "ଜୁନ", "ଜୁଲାଇ", "ଅଗଷ୍ଟ",
      "ସେପ୍ଟେମ୍ବର", "ଅକ୍ଟୋବର", "ନଭେମ୍ବର", "ଡିସେମ୍ବର"] },
  { locales := ["os_RU"]
    names := ["январы", "февралы", "мартъийы", "апрелы", "майы", "июны", "июлы", "августы",
      "сентябры", "октябры", "ноябры", "декабры"] },
  { locales := ["pa_IN"]
    names := ["ਜਨਵਰੀ", "ਫ਼ਰਵਰੀ", "ਮਾਰਚ", "ਅਪ੍ਰੈਲ", "ਮਈ", "ਜੂਨ", "ਜੁਲਾਈ", "ਅਗਸਤ", "ਸਤੰਬਰ",
      "ਅਕਤੂਬਰ", "ਨਵੰਬਰ", "ਦਸੰਬਰ"] },
  { locales := ["pa_PK"]
    names := ["جنوري", "فروري", "مارچ", "اپريل", "مٓی", "جون", "جولاي", "اگست", "ستمبر", "اكتوبر",
      "نومبر", "دسمبر"] },
  { locales := ["pap_AW", "pap_CW"]
    names := ["Yanüari", "Febrüari", "Mart", "Aprel", "Mei", "Yüni", "Yüli", "Ougùstùs",
      "Sèptèmber", "Oktober", "Novèmber", "Desèmber"] },
  { locales := ["pl_PL"]
    names := ["stycznia", "lutego", "marca", "kwietnia", "maja", "czerwca", "lipca", "sierpnia",
      "września", "października", "listopada", "grudnia"] },
  { locales := ["ps_AF"]
    names := ["جنوري", "فبروري", "مارچ", "اپریل", "مۍ", "جون", "جولای", "اګست", "سپتمبر",
      "اکتوبر", "نومبر", "دسمبر"] },
  { locales := ["pt_BR", "pt_PT"]
    names := ["janeiro", "fevereiro", "março", "abril", "maio", "junho", "julho", "agosto",
      "setembro", "outubro", "novembro", "dezembro"] },
  { locales := ["quz_PE"]
    names := ["iniru", "phiwriru", "marsu", "awril", "mayu", "huniyu", "huliyu", "agustu",
      "siptiyimri", "uktuwri", "nuwiyimri", "tisiyimri"] },
  { locales := ["ro_RO"]
    names := ["ianuarie", "februarie", "martie", "aprilie", "mai", "iunie", "iulie", "august",
      "septembrie", "octombrie", "noiembrie", "decembrie"] },
  { locales := ["ru_RU", "ru_UA"]
    names := ["января", "февраля", "марта", "апреля", "мая", "июня", "июля", "августа",
      "сентября", "октября", "ноября", "декабря"] },
  { locales := ["rw_RW"]
    names := ["Mutarama", "Gashyantare", "Werurwe", "Mata", "Gicuransi", "Kamena", "Nyakanga",
      "Kanama", "Nzeli", "Ukwakira", "Ugushyingo", "Ukuboza"] },
  { locales := ["sah_RU"]
    names := ["тохсунньу", "олунньу", "кулун тутар", "муус устар", "ыам ыйын", "бэс ыйын",
      "от ыйын", "атырдьах ыйын", "балаҕан ыйын", "алтынньы", "сэтинньи", "ахсынньы"] },
  { locales := ["sat_IN"]
    names := ["जनवरी", "फरवरी", "मार्च", "अप्रेल", "मई", "जुन", "जुलाई", "अगस्त", "सितम्बर",
      "अखथबर", "नवम्बर", "दिसम्बर"] },
  { locales := ["sc_IT"]
    names := ["Ghennàrgiu", "Freàrgiu", "Martzu", "Abrile", "Maju", "Làmpadas",
      "Argiolas/Trìulas", "Austu", "Cabudanni", "Santugaine/Ladàmine", "Onniasantu/Santandria",
      "Nadale/Idas"] },
  { locales := ["sd_IN"]
    names := ["جنوري", "فبروري", "مارچ", "اپريل", "مي", "جون", "جولاءِ", "آگسٽ", "سيپٽيمبر",
      "آڪٽوبر", "نومبر", "ڊسمبر"] },
  { locales := ["se_NO"]
    names := ["ođđajagemánnu", "guovvamánnu", "njukčamánnu", "cuoŋománnu", "miessemánnu",
      "geassemánnu", "suoidnemánnu", "borgemánnu", "čakčamánnu", "golggotmánnu", "skábmamánnu",
      "juovlamánnu"] },
  { locales := ["sgs_LT"]
    names := ["sausė", "vasarė", "kuova", "balondė", "gegožės", "bėrželė", "lëpas", "rogpjūtė",
      "siejės", "spalė", "lapkrėstė", "grůdė"] },
  { locales := ["shn_MM"]
    names := ["လိူၼ်ၵမ်", "လိူၼ်သၢမ်", "လိူၼ်သီ", "လိူၼ်ႁႃႈ", "လိူၼ်ႁူၵ်း", "လိူၼ်ၸဵတ်း",
      "လိူၼ်ပႅတ်ႇ", "လိူၼ်ၵဝ်ႈ", "လိူၼ်သိပ်း", "လိူၼ်သိပ်းဢိတ်း", "လိူၼ်သိပ်းဢိတ်းသွင်",
      "လိူၼ်ၸဵင်"] },
  { locales := ["shs_CA"]
    names := ["Pellkwet̓min", "Pelctsipwen̓ten", "Pellsqépts", "Peslléwten", "Pell7ell7é7llqten",
      "Pelltspéntsk", "Pelltqwelq̓wél̓t", "Pellct̓éxel̓cten", "Pesqelqlélten", "Pesllwélsten",
      "Pellc7ell7é7llcwten̓", "Pelltetétq̓em"] },
  { locales := ["si_LK"]
    names := ["ජනවාරි", "පෙබරවාරි", "මාර්තු", "අප්‍රේල්", "මැයි", "ජූනි", "ජූලි", "අගෝස්තු",
      "සැප්තැම්බර්", "ඔක්තෝබර්", "නොවැම්බර්", "දෙසැම්බර්"] },
  { locales := ["sk_SK"]
    names := ["január", "február", "marec", "apríl", "máj", "jún", "júl", "august", "september",
      "október", "november", "december"] },
  { locales := ["sl_SI"]
    names := ["januar", "februar", "marec", "april", "maj", "junij", "julij", "avgust",
      "september", "oktober", "november", "december"] },
  { locales := ["sm_WS"]
    names := ["Ianuari", "Fepuari", "Mati", "Aperila", "Me", "Iuni", "Iulai", "Auguso", "Setema",
      "Oketopa", "Novema", "Tesema"] },
  { locales := ["so_DJ", "so_ET", "so_KE", "so_SO"]
    names := ["Bisha Koobaad", "Bisha Labaad", "Bisha Saddexaad", "Bisha Afraad", "Bisha Shanaad",
      "Bisha Lixaad", "Bisha Todobaad", "Bisha Sideedaad", "Bisha Sagaalaad", "Bisha Tobnaad",
      "Bisha Kow iyo Tobnaad", "Bisha Laba iyo Tobnaad"] },
  { locales := ["sq_AL", "sq_MK"]
    names := ["janar", "shkurt", "mars", "prill", "maj", "qershor", "korrik", "gusht", "shtator",
      "tetor", "nëntor", "dhjetor"] },
  { locales := ["sr_ME", "sr_RS"]
    names := ["јануар", "фебруар", "март", "април", "мај", "јун", "јул", "август", "септембар",
      "октобар", "новембар", "децембар"] },
  { locales := ["ss_ZA"]
    names := ["Bhimbidvwane", "iNdlovane", "iNdlovulenkhulu", "Mabasa", "Inkhwenkhweti",
      "iNhlaba", "Kholwane", "iNgci", "iNyoni", "Impala", "Lweti", "iNgongoni"] },
  { locales := ["st_ZA"]
    names := ["Pherekgong", "Hlakola", "Tlhakubele", "Mmese", "Motsheanong", "Phupjane", "Phupu",
      "Phato", "Leotse", "Mphalane", "Pudungwana", "Tshitwe"] },
  { locales := ["sv_FI", "sv_SE"]
    names := ["januari", "februari", "mars", "april", "maj", "juni", "juli", "augusti",
      "september", "oktober", "november", "december"] },
  { locales := ["sw_KE", "sw_TZ"]
    names := ["Januari", "Februari", "Machi", "Aprili", "Mei", "Juni", "Julai", "Agosti",
      "Septemba", "Oktoba", "Novemba", "Desemba"] },
  { locales := ["szl_PL"]
    names := ["stycznia", "lutego", "marca", "kwietnia", "moja", "czyrwca", "lipca", "sierpnia",
      "września", "października", "listopada", "grudnia"] },
  { locales := ["ta_IN", "ta_LK"]
    names := ["ஜனவரி", "பிப்ரவரி", "மார்ச்", "ஏப்ரல்", "மே", "ஜூன்", "ஜூலை", "ஆகஸ்ட்",
      "செப்டம்பர்", "அக்டோபர்", "நவம்பர்", "டிசம்பர்"] },
  { locales := ["tcy_IN"]
    names := ["ಜನವರಿ", "ಫೆಬ್ರುವರಿ", "ಮಾರ್ಚ್", "ಏಪ್ರಿಲ್‌‌", "ಮೇ", "ಜೂನ್", "ಜುಲೈ", "ಆಗಸ್ಟ್",
      "ಸೆಪ್ಟೆಂಬರ್‌", "ಅಕ್ಟೋಬರ್", "ನವೆಂಬರ್", "ಡಿಸೆಂಬರ್"] },
  { locales := ["te_IN"]
    names := ["జనవరి", "ఫిబ్రవరి", "మార్చి", "ఏప్రిల్", "మే", "జూన్", "జులై", "ఆగస్టు",
      "సెప్టెంబర్", "అక్టోబర్", "నవంబర్", "డిసెంబర్"] },
  { locales := ["tg_TJ"]
    names := ["Января", "Февраля", "Марта", "Апреля", "Мая", "Июня", "Июля", "Августа",
      "Сентября", "Октября", "Ноября", "Декабря"] },
  { locales := ["th_TH"]
    names := ["มกราคม", "กุมภาพันธ์", "มีนาคม", "เมษายน", "พฤษภาคม", "มิถุนายน", "กรกฎาคม",
      "สิงหาคม", "กันยายน", "ตุลาคม", "พฤศจิกายน", "ธันวาคม"] },
  { locales := ["ti_ER", "tig_ER"]
    names := ["ጥሪ", "ለካቲት", "መጋቢት", "ሚያዝያ", "ግንቦት", "ሰነ", "ሓምለ", "ነሓሰ", "መስከረም", "ጥቅምቲ", "ሕዳር",
      "ታሕሳስ"] },
  { locales := ["tk_TM"]
    names := ["Ýanwar", "Fewral", "Mart", "Aprel", "Maý", "Iýun", "Iýul", "Awgust", "Sentýabr",
      "Oktýabr", "Noýabr", "Dekabr"] },
  { locales := ["tl_PH"]
    names := ["Enero", "Pebrero", "Marso", "Abril", "Mayo", "Hunyo", "Hulyo", "Agosto",
      "Septiyembre", "Oktubre", "Nobiyembre", "Disyembre"] },
  { locales := ["tn_ZA"]
    names := ["Ferikgong", "Tlhakole", "Mopitlwe", "Moranang", "Motsheganong", "Seetebosigo",
      "Phukwi", "Phatwe", "Lwetse", "Diphalane", "Ngwanatsele", "Sedimonthole"] },
  { locales := ["to_TO"]
    names := ["Sānuali", "Fēpueli", "Maʻasi", "ʻEpeleli", "Mē", "Sune", "Siulai", "ʻAokosi",
      "Sepitema", "ʻOkatopa", "Nōvema", "Tīsema"] },
  { locales := ["tpi_PG"]
    names := ["Janueri", "Februeri", "Mas", "Epril", "Me", "Jun", "Julai", "Ogas", "Septemba",
      "Oktoba", "Novemba", "Desemba"] },
  { locales := ["tr_CY", "tr_TR"]
    names := ["Ocak", "Şubat", "Mart", "Nisan", "Mayıs", "Haziran", "Temmuz", "Ağustos", "Eylül",
      "Ekim", "Kasım", "Aralık"] },
  { locales := ["ts_ZA"]
    names := ["Sunguti", "Nyenyenyani", "Nyenyankulu", "Dzivamisoko", "Mudyaxihi", "Khotavuxika",
      "Mawuwani", "Mhawuri", "Ndzhati", "Nhlangula", "Hukuri", "N'wendzamhala"] },
  { locales := ["tt_RU"]
    names := ["гыйнвар", "февраль", "март", "апрель", "май", "июнь", "июль", "август", "сентябрь",
      "октябрь", "ноябрь", "декабрь"] },
  { locales := ["ug_CN"]
    names := ["يانۋار", "فېۋرال", "مارت", "ئاپرېل", "ماي", "ئىيۇن", "ئىيۇل", "ئاۋغۇست",
      "سېنتەبىر", "ئۆكتەبىر", "نويابىر", "دېكابىر"] },
  { locales := ["uk_UA"]
    names := ["січня", "лютого", "березня", "квітня", "травня", "червня", "липня", "серпня",
      "вересня", "жовтня", "листопада", "грудня"] },
  { locales := ["unm_US"]
    names := ["enikwsi", "chkwali", "xamokhwite", "kwetayoxe", "tainipen", "kichinipen",
      "lainipen", "winaminke", "kichitahkok", "puksit", "wini", "muxkotae"] },
  { locales := ["ur_IN", "ur_PK"]
    names := ["جنوری", "فروری", "مارچ", "اپریل", "مئی", "جون", "جولائی", "اگست", "ستمبر",
      "اکتوبر", "نومبر", "دسمبر"] },
  { locales := ["uz_UZ"]
    names := ["Yanvar", "Fevral", "Mart", "Aprel", "May", "Iyun", "Iyul", "Avgust", "Sentabr",
      "Oktabr", "Noyabr", "Dekabr"] },
  { locales := ["ve_ZA"]
    names := ["Phando", "Luhuhi", "Ṱhafamuhwe", "Lambamai", "Shundunthule", "Fulwi", "Fulwana",
      "Ṱhangule", "Khubvumedzi", "Tshimedzi", "Ḽara", "Nyendavhusiku"] },
  { locales := ["vi_VN"]
    names := ["Tháng 1", "Tháng 2", "Tháng 3", "Tháng 4", "Tháng 5", "Tháng 6", "Tháng 7",
      "Tháng 8", "Tháng 9", "Tháng 10", "Tháng 11", "Tháng 12"] },
  { locales := ["wa_BE"]
    names := ["di djanvî", "di fevrî", "di måss", "d’ avri", "di may", "di djun", "di djulete",
      "d’ awousse", "di setimbe", "d’ octôbe", "di nôvimbe", "di decimbe"] },
  { locales := ["wae_CH"]
    names := ["Jenner", "Hornig", "Märze", "Abrille", "Meije", "Bráčet", "Heiwet", "Öigšte",
      "Herbštmánet", "Wímánet", "Wintermánet", "Chrištmánet"] },
  { locales := ["wo_SN"]
    names := ["sanwiy'e", "feebriy'e", "mars", "awril", "me", "suwen", "sulet", "uut",
      "septaambar", "oktoobar", "nowaambar", "desaambar"] },
  { locales := ["xh_ZA"]
    names := ["eyoMqungu", "eyoMdumba", "eyoKwindla", "uTshazimpuzi", "uCanzibe", "eyeSilimela",
      "eyeKhala", "eyeThupa", "eyoMsintsi", "eyeDwarha", "eyeNkanga", "eyoMnga"] },
  { locales := ["yi_US"]
    names := ["יאַנואַר", "פֿעברואַר", "מערץ", "אַפּריל", "מיי", "יוני", "יולי", "אויגוסט",
      "סעפּטעמבער", "אקטאבער", "נאוועמבער", "דעצעמבער"] },
  { locales := ["yo_NG"]
    names := ["Oṣù Ṣẹ́rẹ́", "Oṣù Èrèlè", "Oṣù Ẹrẹ̀nà", "Oṣù Ìgbé", "Oṣù Ẹ̀bibi", "Oṣù Òkúdu",
      "Oṣù Agẹmọ", "Oṣù Ògún", "Oṣù Owewe", "Oṣù Ọ̀wàrà", "Oṣù Bélú", "Oṣù Ọ̀pẹ̀"] },
  { locales := ["yue_HK"]
    names := ["1月", "2月", "3月", "4月", "5月", "6月", "7月", "8月", "9月", "10月", "11月", "12月"] },
  { locales := ["yuw_PG"]
    names := ["jenuari", "febuari", "mas", "epril", "mei", "jun", "julai", "ögus", "septemba",
      "öktoba", "nöwemba", "diksemba"] },
  { locales := ["zu_ZA"]
    names := ["Januwari", "Februwari", "Mashi", "Ephreli", "Meyi", "Juni", "Julayi", "Agasti",
      "Septhemba", "Okthoba", "Novemba", "Disemba"] }]

def all : List MonthNames := ofAToI ++ ofJToZ

def find? (locale : String) : Option (List String) :=
  (all.find? fun m => m.locales.contains locale).map names

end MonthNames

end TimeMarkup
