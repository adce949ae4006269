/-!
# Names of emoji

The short names of the Unicode emoji data, version 12, with underscores for blanks, and the shorter
ones that are used in chats. The chat names come first where both give a name.
-/

namespace Autoscaler

namespace Console

/-- Symbols by the names that are used in chats. -/
def chatNames : List (String × String) :=
  [("+1", "👍"), ("-1", "👎"), ("100", "💯"), ("1234", "🔢"), ("8ball", "🎱"), ("a", "🅰"), ("ab", "🆎"),
   ("abc", "🔤"), ("abcd", "🔡"), ("accept", "🉑"), ("aerial_tramway", "🚡"), ("airplane", "✈"),
   ("alarm_clock", "⏰"), ("alien", "👽"), ("ambulance", "🚑"), ("anchor", "⚓"), ("angel", "👼"),
   ("anger", "💢"), ("angry", "😠"), ("anguished", "😧"), ("ant", "🐜"), ("apple", "🍎"),
   ("aquarius", "♒"), ("aries", "♈"), ("arrow_backward", "◀"), ("arrow_double_down", "⏬"),
   ("arrow_double_up", "⏫"), ("arrow_down", "⬇"), ("arrow_down_small", "🔽"),
   ("arrow_forward", "▶"), ("arrow_heading_down", "⤵"), ("arrow_heading_up", "⤴"),
   ("arrow_left", "⬅"), ("arrow_lower_left", "↙"), ("arrow_lower_right", "↘"),
   ("arrow_right", "➡"), ("arrow_right_hook", "↪"), ("arrow_up", "⬆"), ("arrow_up_down", "↕"),
   ("arrow_up_small", "🔼"), ("arrow_upper_left", "↖"), ("arrow_upper_right", "↗"),
   ("arrows_clockwise", "🔃"), ("arrows_counterclockwise", "🔄"), ("art", "🎨"),
   ("articulated_lorry", "🚛"), ("astonished", "😲"), ("atm", "🏧"), ("b", "🅱"), ("baby_bottle", "🍼"),
   ("baby_chick", "🐤"), ("baby_symbol", "🚼"), ("back", "🔙"), ("baggage_claim", "🛄"),
   ("balloon", "🎈"), ("ballot_box_with_check", "☑"), ("bamboo", "🎍"), ("banana", "🍌"),
   ("bangbang", "‼"), ("bank", "🏦"), ("bar_chart", "📊"), ("barber", "💈"), ("baseball", "⚾"),
   ("basketball", "🏀"), ("bath", "🛀"), ("bathtub", "🛁"), ("battery", "🔋"), ("bear", "🐻"),
   ("bee", "🐝"), ("beer", "🍺"), ("beers", "🍻"), ("beetle", "🐞"), ("beginner", "🔰"), ("bell", "🔔"),
   ("bento", "🍱"), ("bicyclist", "🚴"), ("bike", "🚲"), ("bikini", "👙"), ("bird", "🐦"),
   ("birthday", "🎂"), ("black_circle", "⚫"), ("black_joker", "🃏"), ("black_large_square", "⬛"),
   ("black_medium_small_square", "◾"), ("black_medium_square", "◼"), ("black_nib", "✒"),
   ("black_small_square", "▪"), ("black_square_button", "🔲"), ("blossom", "🌼"), ("blowfish", "🐡"),
   ("blue_book", "📘"), ("blue_car", "🚙"), ("blue_heart", "💙"), ("blush", "😊"), ("boar", "🐗"),
   ("boat", "⛵"), ("bomb", "💣"), ("book", "📖"), ("bookmark", "🔖"), ("bookmark_tabs", "📑"),
   ("books", "📚"), ("boom", "💥"), ("boot", "👢"), ("bouquet", "💐"), ("bow", "🙇"), ("bowling", "🎳"),
   ("bread", "🍞"), ("bridge_at_night", "🌉"), ("briefcase", "💼"), ("broken_heart", "💔"),
   ("bug", "🐛"), ("bulb", "💡"), ("bullettrain_front", "🚅"), ("bullettrain_side", "🚄"),
   ("bus", "🚌"), ("busstop", "🚏"), ("bust_in_silhouette", "👤"), ("busts_in_silhouette", "👥"),
   ("cactus", "🌵"), ("cake", "🍰"), ("calendar", "📆"), ("calling", "📲"), ("camel", "🐫"),
   ("camera", "📷"), ("cancer", "♋"), ("candy", "🍬"), ("capital_abcd", "🔠"), ("capricorn", "♑"),
   ("car", "🚗"), ("card_index", "📇"), ("carousel_horse", "🎠"), ("cat", "🐱"), ("cat2", "🐈"),
   ("cd", "💿"), ("chart", "💹"), ("chart_with_downwards_trend", "📉"),
   ("chart_with_upwards_trend", "📈"), ("checkered_flag", "🏁"), ("cherries", "🍒"),
   ("cherry_blossom", "🌸"), ("chestnut", "🌰"), ("chicken", "🐔"), ("children_crossing", "🚸"),
   ("chocolate_bar", "🍫"), ("christmas_tree", "🎄"), ("church", "⛪"), ("cinema", "🎦"),
   ("circus_tent", "🎪"), ("city_sunrise", "🌇"), ("city_sunset", "🌆"), ("cl", "🆑"), ("clap", "👏"),
   ("clapper", "🎬"), ("clipboard", "📋"), ("clock1", "🕐"), ("clock10", "🕙"), ("clock1030", "🕥"),
   ("clock11", "🕚"), ("clock1130", "🕦"), ("clock12", "🕛"), ("clock1230", "🕧"), ("clock130", "🕜"),
   ("clock2", "🕑"), ("clock230", "🕝"), ("clock3", "🕒"), ("clock330", "🕞"), ("clock4", "🕓"),
   ("clock430", "🕟"), ("clock5", "🕔"), ("clock530", "🕠"), ("clock6", "🕕"), ("clock630", "🕡"),
   ("clock7", "🕖"), ("clock730", "🕢"), ("clock8", "🕗"), ("clock830", "🕣"), ("clock9", "🕘"),
   ("clock930", "🕤"), ("closed_book", "📕"), ("closed_lock_with_key", "🔐"),
   ("closed_umbrella", "🌂"), ("cloud", "☁"), ("clubs", "♣"), ("cn", "🇨🇳"), ("cocktail", "🍸"),
   ("coffee", "☕"), ("cold_sweat", "😰"), ("collision", "💥"), ("computer", "💻"),
   ("confetti_ball", "🎊"), ("confounded", "😖"), ("confused", "😕"), ("congratulations", "㊗"),
   ("construction", "🚧"), ("convenience_store", "🏪"), ("cookie", "🍪"), ("cool", "🆒"), ("cop", "👮"),
   ("copyright", "©"), ("corn", "🌽"), ("couple", "👫"), ("couplekiss", "💏"), ("cow", "🐮"),
   ("cow2", "🐄"), ("credit_card", "💳"), ("crescent_moon", "🌙"), ("crocodile", "🐊"),
   ("crossed_flags", "🎌"), ("crown", "👑"), ("cry", "😢"), ("crying_cat_face", "😿"),
   ("crystal_ball", "🔮"), ("cupid", "💘"), ("curly_loop", "➰"), ("currency_exchange", "💱"),
   ("curry", "🍛"), ("custard", "🍮"), ("customs", "🛃"), ("cyclone", "🌀"), ("dancer", "💃"),
   ("dancers", "👯"), ("dango", "🍡"), ("dart", "🎯"), ("dash", "💨"), ("date", "📅"), ("de", "🇩🇪"),
   ("deciduous_tree", "🌳"), ("department_store", "🏬"), ("diamond_shape_with_a_dot_inside", "💠"),
   ("diamonds", "♦"), ("disappointed", "😞"), ("disappointed_relieved", "😥"), ("dizzy", "💫"),
   ("dizzy_face", "😵"), ("do_not_litter", "🚯"), ("dog", "🐶"), ("dog2", "🐕"), ("dollar", "💵"),
   ("dolls", "🎎"), ("dolphin", "🐬"), ("door", "🚪"), ("doughnut", "🍩"), ("dragon", "🐉"),
   ("dragon_face", "🐲"), ("dress", "👗"), ("dromedary_camel", "🐪"), ("droplet", "💧"), ("dvd", "📀"),
   ("e-mail", "📧"), ("ear_of_rice", "🌾"), ("earth_africa", "🌍"), ("earth_americas", "🌎"),
   ("earth_asia", "🌏"), ("egg", "🍳"), ("eggplant", "🍆"), ("eight", "8\u20e3"),
   ("eight_pointed_black_star", "✴"), ("eight_spoked_asterisk", "✳"), ("electric_plug", "🔌"),
   ("elephant", "🐘"), ("email", "✉"), ("end", "🔚"), ("envelope", "✉"),
   ("envelope_with_arrow", "📩"), ("es", "🇪🇸"), ("euro", "💶"), ("european_castle", "🏰"),
   ("european_post_office", "🏤"), ("evergreen_tree", "🌲"), ("exclamation", "❗"),
   ("expressionless", "😑"), ("eyeglasses", "👓"), ("eyes", "👀"), ("facepunch", "👊"),
   ("factory", "🏭"), ("fallen_leaf", "🍂"), ("fast_forward", "⏩"), ("fax", "📠"), ("fearful", "😨"),
   ("feet", "🐾"), ("ferris_wheel", "🎡"), ("file_folder", "📁"), ("fire", "🔥"), ("fire_engine", "🚒"),
   ("fireworks", "🎆"), ("first_quarter_moon", "🌓"), ("first_quarter_moon_with_face", "🌛"),
   ("fish", "🐟"), ("fish_cake", "🍥"), ("fishing_pole_and_fish", "🎣"), ("fist", "✊"),
   ("five", "5\u20e3"), ("flags", "🎏"), ("flashlight", "🔦"), ("flipper", "🐬"),
   ("floppy_disk", "💾"), ("flower_playing_cards", "🎴"), ("flushed", "😳"), ("foggy", "🌁"),
   ("football", "🏈"), ("fork_and_knife", "🍴"), ("fountain", "⛲"), ("four", "4\u20e3"),
   ("four_leaf_clover", "🍀"), ("fr", "🇫🇷"), ("free", "🆓"), ("fried_shrimp", "🍤"), ("fries", "🍟"),
   ("frog", "🐸"), ("frowning", "😦"), ("fuelpump", "⛽"), ("full_moon", "🌕"),
   ("full_moon_with_face", "🌝"), ("game_die", "🎲"), ("gb", "🇬🇧"), ("gem", "💎"), ("gemini", "♊"),
   ("ghost", "👻"), ("gift", "🎁"), ("gift_heart", "💝"), ("globe_with_meridians", "🌐"),
   ("goat", "🐐"), ("golf", "⛳"), ("grapes", "🍇"), ("green_apple", "🍏"), ("green_book", "📗"),
   ("green_heart", "💚"), ("grey_exclamation", "❕"), ("grey_question", "❔"), ("grimacing", "😬"),
   ("grin", "😁"), ("grinning", "😀"), ("guardsman", "💂"), ("guitar", "🎸"), ("gun", "🔫"),
   ("haircut", "💇"), ("hamburger", "🍔"), ("hammer", "🔨"), ("hamster", "🐹"), ("hand", "✋"),
   ("handbag", "👜"), ("hankey", "💩"), ("hash", "#\u20e3"), ("hatched_chick", "🐥"),
   ("hatching_chick", "🐣"), ("headphones", "🎧"), ("hear_no_evil", "🙉"), ("heart", "❤"),
   ("heart_decoration", "💟"), ("heart_eyes", "😍"), ("heart_eyes_cat", "😻"), ("heartbeat", "💓"),
   ("heartpulse", "💗"), ("hearts", "♥"), ("heavy_check_mark", "✔"), ("heavy_division_sign", "➗"),
   ("heavy_dollar_sign", "💲"), ("heavy_exclamation_mark", "❗"), ("heavy_minus_sign", "➖"),
   ("heavy_multiplication_x", "✖"), ("heavy_plus_sign", "➕"), ("helicopter", "🚁"), ("herb", "🌿"),
   ("hibiscus", "🌺"), ("high_brightness", "🔆"), ("high_heel", "👠"), ("hocho", "🔪"),
   ("honey_pot", "🍯"), ("honeybee", "🐝"), ("horse", "🐴"), ("hospital", "🏥"), ("hotel", "🏨"),
   ("hotsprings", "♨"), ("hourglass", "⌛"), ("hourglass_flowing_sand", "⏳"), ("house", "🏠"),
   ("house_with_garden", "🏡"), ("hushed", "😯"), ("ice_cream", "🍨"), ("icecream", "🍦"), ("id", "🆔"),
   ("ideograph_advantage", "🉐"), ("imp", "👿"), ("inbox_tray", "📥"), ("incoming_envelope", "📨"),
   ("information_desk_person", "💁"), ("information_source", "ℹ"), ("innocent", "😇"),
   ("interrobang", "⁉"), ("iphone", "📱"), ("it", "🇮🇹"), ("izakaya_lantern", "🏮"),
   ("jack_o_lantern", "🎃"), ("japan", "🗾"), ("japanese_castle", "🏯"), ("japanese_goblin", "👺"),
   ("japanese_ogre", "👹"), ("jeans", "👖"), ("joy", "😂"), ("joy_cat", "😹"), ("jp", "🇯🇵"),
   ("key", "🔑"), ("keycap_ten", "🔟"), ("kimono", "👘"), ("kiss", "💋"), ("kissing", "😗"),
   ("kissing_cat", "😽"), ("kissing_closed_eyes", "😚"), ("kissing_heart", "😘"),
   ("kissing_smiling_eyes", "😙"), ("knife", "🔪"), ("koala", "🐨"), ("koko", "🈁"), ("kr", "🇰🇷"),
   ("lantern", "🏮"), ("large_blue_circle", "🔵"), ("large_blue_diamond", "🔷"),
   ("large_orange_diamond", "🔶"), ("last_quarter_moon", "🌗"), ("last_quarter_moon_with_face", "🌜"),
   ("laughing", "😆"), ("leaves", "🍃"), ("ledger", "📒"), ("left_luggage", "🛅"),
   ("left_right_arrow", "↔"), ("leftwards_arrow_with_hook", "↩"), ("lemon", "🍋"), ("leo", "♌"),
   ("leopard", "🐆"), ("libra", "♎"), ("light_rail", "🚈"), ("link", "🔗"), ("lips", "👄"),
   ("lipstick", "💄"), ("lock", "🔒"), ("lock_with_ink_pen", "🔏"), ("lollipop", "🍭"), ("loop", "➿"),
   ("loud_sound", "🔊"), ("loudspeaker", "📢"), ("love_hotel", "🏩"), ("love_letter", "💌"),
   ("low_brightness", "🔅"), ("m", "Ⓜ"), ("mag", "🔍"), ("mag_right", "🔎"), ("mahjong", "🀄"),
   ("mailbox", "📫"), ("mailbox_closed", "📪"), ("mailbox_with_mail", "📬"),
   ("mailbox_with_no_mail", "📭"), ("man_with_gua_pi_mao", "👲"), ("man_with_turban", "👳"),
   ("mans_shoe", "👞"), ("maple_leaf", "🍁"), ("mask", "😷"), ("massage", "💆"), ("meat_on_bone", "🍖"),
   ("mega", "📣"), ("melon", "🍈"), ("memo", "📝"), ("mens", "🚹"), ("metro", "🚇"),
   ("microphone", "🎤"), ("microscope", "🔬"), ("milky_way", "🌌"), ("minibus", "🚐"),
   ("minidisc", "💽"), ("mobile_phone_off", "📴"), ("money_with_wings", "💸"), ("moneybag", "💰"),
   ("monkey", "🐒"), ("monkey_face", "🐵"), ("monorail", "🚝"), ("moon", "🌔"), ("mortar_board", "🎓"),
   ("mount_fuji", "🗻"), ("mountain_bicyclist", "🚵"), ("mountain_cableway", "🚠"),
   ("mountain_railway", "🚞"), ("mouse", "🐭"), ("mouse2", "🐁"), ("movie_camera", "🎥"),
   ("moyai", "🗿"), ("muscle", "💪"), ("mushroom", "🍄"), ("musical_keyboard", "🎹"),
   ("musical_note", "🎵"), ("musical_score", "🎼"), ("mute", "🔇"), ("nail_care", "💅"),
   ("name_badge", "📛"), ("necktie", "👔"), ("negative_squared_cross_mark", "❎"),
   ("neutral_face", "😐"), ("new", "🆕"), ("new_moon", "🌑"), ("new_moon_with_face", "🌚"),
   ("newspaper", "📰"), ("ng", "🆖"), ("night_with_stars", "🌃"), ("nine", "9\u20e3"),
   ("no_bell", "🔕"), ("no_bicycles", "🚳"), ("no_entry", "⛔"), ("no_entry_sign", "🚫"),
   ("no_good", "🙅"), ("no_mobile_phones", "📵"), ("no_mouth", "😶"), ("no_pedestrians", "🚷"),
   ("no_smoking", "🚭"), ("non-potable_water", "🚱"), ("notebook", "📓"),
   ("notebook_with_decorative_cover", "📔"), ("notes", "🎶"), ("nut_and_bolt", "🔩"), ("o", "⭕"),
   ("o2", "🅾"), ("ocean", "🌊"), ("octopus", "🐙"), ("oden", "🍢"), ("office", "🏢"), ("ok", "🆗"),
   ("ok_woman", "🙆"), ("older_man", "👴"), ("older_woman", "👵"), ("on", "🔛"),
   ("oncoming_automobile", "🚘"), ("oncoming_bus", "🚍"), ("oncoming_police_car", "🚔"),
   ("oncoming_taxi", "🚖"), ("one", "1\u20e3"), ("open_book", "📖"), ("open_file_folder", "📂"),
   ("open_mouth", "😮"), ("ophiuchus", "⛎"), ("orange_book", "📙"), ("outbox_tray", "📤"),
   ("ox", "🐂"), ("page_facing_up", "📄"), ("page_with_curl", "📃"), ("pager", "📟"),
   ("palm_tree", "🌴"), ("panda_face", "🐼"), ("paperclip", "📎"), ("parking", "🅿"),
   ("part_alternation_mark", "〽"), ("partly_sunny", "⛅"), ("passport_control", "🛂"),
   ("paw_prints", "🐾"), ("peach", "🍑"), ("pear", "🍐"), ("pencil", "📝"), ("pencil2", "✏"),
   ("penguin", "🐧"), ("pensive", "😔"), ("performing_arts", "🎭"), ("persevere", "😣"),
   ("person_with_blond_hair", "👱"), ("person_with_pouting_face", "🙎"), ("phone", "☎"),
   ("pig", "🐷"), ("pig2", "🐖"), ("pig_nose", "🐽"), ("pill", "💊"), ("pineapple", "🍍"),
   ("pisces", "♓"), ("pizza", "🍕"), ("point_down", "👇"), ("point_left", "👈"), ("point_right", "👉"),
   ("point_up", "☝"), ("point_up_2", "👆"), ("police_car", "🚓"), ("poodle", "🐩"), ("poop", "💩"),
   ("post_office", "🏣"), ("postal_horn", "📯"), ("postbox", "📮"), ("potable_water", "🚰"),
   ("pouch", "👝"), ("poultry_leg", "🍗"), ("pound", "💷"), ("pout", "😡"), ("pouting_cat", "😾"),
   ("pray", "🙏"), ("punch", "👊"), ("purple_heart", "💜"), ("purse", "👛"), ("pushpin", "📌"),
   ("put_litter_in_its_place", "🚮"), ("question", "❓"), ("rabbit", "🐰"), ("rabbit2", "🐇"),
   ("racehorse", "🐎"), ("radio", "📻"), ("radio_button", "🔘"), ("rage", "😡"), ("railway_car", "🚃"),
   ("rainbow", "🌈"), ("raised_hands", "🙌"), ("raising_hand", "🙋"), ("ram", "🐏"), ("ramen", "🍜"),
   ("rat", "🐀"), ("recycle", "♻"), ("red_car", "🚗"), ("red_circle", "🔴"), ("registered", "®"),
   ("relaxed", "☺"), ("relieved", "😌"), ("repeat", "🔁"), ("repeat_one", "🔂"), ("restroom", "🚻"),
   ("revolving_hearts", "💞"), ("rewind", "⏪"), ("ribbon", "🎀"), ("rice", "🍚"), ("rice_ball", "🍙"),
   ("rice_cracker", "🍘"), ("rice_scene", "🎑"), ("ring", "💍"), ("rocket", "🚀"),
   ("roller_coaster", "🎢"), ("rooster", "🐓"), ("rose", "🌹"), ("rotating_light", "🚨"),
   ("round_pushpin", "📍"), ("rowboat", "🚣"), ("ru", "🇷🇺"), ("rugby_football", "🏉"),
   ("runner", "🏃"), ("running", "🏃"), ("running_shirt_with_sash", "🎽"), ("sa", "🈂"),
   ("sagittarius", "♐"), ("sailboat", "⛵"), ("sake", "🍶"), ("sandal", "👡"), ("santa", "🎅"),
   ("satisfied", "😆"), ("saxophone", "🎷"), ("school", "🏫"), ("school_satchel", "🎒"),
   ("scissors", "✂"), ("scorpius", "♏"), ("scream", "😱"), ("scream_cat", "🙀"), ("scroll", "📜"),
   ("seat", "💺"), ("secret", "㊙"), ("see_no_evil", "🙈"), ("seedling", "🌱"), ("seven", "7\u20e3"),
   ("shaved_ice", "🍧"), ("sheep", "🐑"), ("shell", "🐚"), ("ship", "🚢"), ("shirt", "👕"),
   ("shit", "💩"), ("shoe", "👞"), ("shower", "🚿"), ("signal_strength", "📶"), ("six", "6\u20e3"),
   ("six_pointed_star", "🔯"), ("ski", "🎿"), ("skull", "💀"), ("sleeping", "😴"), ("sleepy", "😪"),
   ("slot_machine", "🎰"), ("small_blue_diamond", "🔹"), ("small_orange_diamond", "🔸"),
   ("small_red_triangle", "🔺"), ("small_red_triangle_down", "🔻"), ("smile", "😄"),
   ("smile_cat", "😸"), ("smiley", "😃"), ("smiley_cat", "😺"), ("smiling_imp", "😈"), ("smirk", "😏"),
   ("smirk_cat", "😼"), ("smoking", "🚬"), ("snail", "🐌"), ("snake", "🐍"), ("snowflake", "❄"),
   ("sob", "😭"), ("soccer", "⚽"), ("soon", "🔜"), ("sos", "🆘"), ("sound", "🔉"),
   ("space_invader", "👾"), ("spades", "♠"), ("spaghetti", "🍝"), ("sparkle", "❇"),
   ("sparkler", "🎇"), ("sparkles", "✨"), ("sparkling_heart", "💖"), ("speak_no_evil", "🙊"),
   ("speaker", "🔈"), ("speech_balloon", "💬"), ("speedboat", "🚤"), ("star", "⭐"), ("star2", "🌟"),
   ("stars", "🌠"), ("station", "🚉"), ("statue_of_liberty", "🗽"), ("steam_locomotive", "🚂"),
   ("stew", "🍲"), ("straight_ruler", "📏"), ("strawberry", "🍓"), ("stuck_out_tongue", "😛"),
   ("stuck_out_tongue_closed_eyes", "😝"), ("stuck_out_tongue_winking_eye", "😜"),
   ("sun_with_face", "🌞"), ("sunflower", "🌻"), ("sunglasses", "😎"), ("sunny", "☀"),
   ("sunrise", "🌅"), ("sunrise_over_mountains", "🌄"), ("surfer", "🏄"), ("sushi", "🍣"),
   ("suspension_railway", "🚟"), ("sweat", "😓"), ("sweat_drops", "💦"), ("sweat_smile", "😅"),
   ("sweet_potato", "🍠"), ("swimmer", "🏊"), ("symbols", "🔣"), ("syringe", "💉"), ("tada", "🎉"),
   ("tanabata_tree", "🎋"), ("tangerine", "🍊"), ("taurus", "♉"), ("taxi", "🚕"), ("tea", "🍵"),
   ("telephone", "☎"), ("telephone_receiver", "📞"), ("telescope", "🔭"), ("tennis", "🎾"),
   ("tent", "⛺"), ("thought_balloon", "💭"), ("three", "3\u20e3"), ("thumbsdown", "👎"),
   ("thumbsup", "👍"), ("ticket", "🎫"), ("tiger", "🐯"), ("tiger2", "🐅"), ("tired_face", "😫"),
   ("tm", "™"), ("toilet", "🚽"), ("tokyo_tower", "🗼"), ("tomato", "🍅"), ("tongue", "👅"),
   ("top", "🔝"), ("tophat", "🎩"), ("tractor", "🚜"), ("traffic_light", "🚥"), ("train", "🚋"),
   ("train2", "🚆"), ("tram", "🚊"), ("triangular_flag_on_post", "🚩"), ("triangular_ruler", "📐"),
   ("trident", "🔱"), ("triumph", "😤"), ("trolleybus", "🚎"), ("trophy", "🏆"),
   ("tropical_drink", "🍹"), ("tropical_fish", "🐠"), ("truck", "🚚"), ("trumpet", "🎺"),
   ("tshirt", "👕"), ("tulip", "🌷"), ("turtle", "🐢"), ("tv", "📺"),
   ("twisted_rightwards_arrows", "🔀"), ("two", "2\u20e3"), ("two_hearts", "💕"),
   ("two_men_holding_hands", "👬"), ("two_women_holding_hands", "👭"), ("u5272", "🈹"),
   ("u5408", "🈴"), ("u55b6", "🈺"), ("u6307", "🈯"), ("u6708", "🈷"), ("u6709", "🈶"), ("u6e80", "🈵"),
   ("u7121", "🈚"), ("u7533", "🈸"), ("u7981", "🈲"), ("u7a7a", "🈳"), ("uk", "🇬🇧"), ("unamused", "😒"),
   ("underage", "🔞"), ("unlock", "🔓"), ("up", "🆙"), ("us", "🇺🇸"), ("v", "✌"),
   ("vertical_traffic_light", "🚦"), ("vhs", "📼"), ("vibration_mode", "📳"), ("video_camera", "📹"),
   ("video_game", "🎮"), ("violin", "🎻"), ("virgo", "♍"), ("volcano", "🌋"), ("vs", "🆚"),
   ("walking", "🚶"), ("waning_crescent_moon", "🌘"), ("waning_gibbous_moon", "🌖"), ("warning", "⚠"),
   ("watch", "⌚"), ("water_buffalo", "🐃"), ("watermelon", "🍉"), ("wave", "👋"), ("wavy_dash", "〰"),
   ("waxing_crescent_moon", "🌒"), ("waxing_gibbous_moon", "🌔"), ("wc", "🚾"), ("weary", "😩"),
   ("wedding", "💒"), ("whale", "🐳"), ("whale2", "🐋"), ("wheelchair", "♿"),
   ("white_check_mark", "✅"), ("white_circle", "⚪"), ("white_flower", "💮"),
   ("white_large_square", "⬜"), ("white_medium_small_square", "◽"), ("white_medium_square", "◻"),
   ("white_small_square", "▫"), ("white_square_button", "🔳"), ("wind_chime", "🎐"),
   ("wine_glass", "🍷"), ("wink", "😉"), ("wolf", "🐺"), ("womans_clothes", "👚"), ("womans_hat", "👒"),
   ("womens", "🚺"), ("worried", "😟"), ("wrench", "🔧"), ("x", "❌"), ("yellow_heart", "💛"),
   ("yen", "💴"), ("yum", "😋"), ("zap", "⚡"), ("zero", "0\u20e3"), ("zzz", "💤")]

/-- Symbols for people, whose skin may have a tone. -/
def personNames : List (String × String) :=
  [("baby", "👶"), ("baby_angel", "👼"), ("backhand_index_pointing_down", "👇"),
   ("backhand_index_pointing_left", "👈"), ("backhand_index_pointing_right", "👉"),
   ("backhand_index_pointing_up", "👆"), ("blond-haired_man", "👱\u200d♂\ufe0f"),
   ("blond-haired_person", "👱"), ("blond-haired_woman", "👱\u200d♀\ufe0f"), ("boy", "👦"),
   ("breast-feeding", "🤱"), ("bride_with_veil", "👰"), ("call_me_hand", "🤙"), ("child", "🧒"),
   ("clapping_hands", "👏"), ("construction_worker", "👷"), ("couple_with_heart", "💑"),
   ("crossed_fingers", "🤞"), ("deaf_man", "🧏\u200d♂\ufe0f"), ("deaf_person", "🧏"),
   ("deaf_woman", "🧏\u200d♀\ufe0f"), ("detective", "🕵"), ("ear", "👂"),
   ("ear_with_hearing_aid", "🦻"), ("elf", "🧝"), ("fairy", "🧚"), ("family", "👪"),
   ("flexed_biceps", "💪"), ("folded_hands", "🙏"), ("foot", "🦶"), ("girl", "👧"), ("guard", "💂"),
   ("hand_with_fingers_splayed", "🖐"), ("handshake", "🤝"), ("horse_racing", "🏇"),
   ("index_pointing_up", "☝"), ("kiss", "💏"), ("left-facing_fist", "🤛"), ("leg", "🦵"),
   ("love-you_gesture", "🤟"), ("mage", "🧙"), ("man", "👨"), ("man_artist", "👨\u200d🎨"),
   ("man_astronaut", "👨\u200d🚀"), ("man_biking", "🚴\u200d♂\ufe0f"),
   ("man_bouncing_ball", "⛹\ufe0f\u200d♂\ufe0f"), ("man_bowing", "🙇\u200d♂\ufe0f"),
   ("man_cartwheeling", "🤸\u200d♂\ufe0f"), ("man_climbing", "🧗\u200d♂\ufe0f"),
   ("man_construction_worker", "👷\u200d♂\ufe0f"), ("man_cook", "👨\u200d🍳"),
   ("man_curly_haired", "👨\u200d🦱"), ("man_dancing", "🕺"),
   ("man_detective", "🕵\ufe0f\u200d♂\ufe0f"), ("man_elf", "🧝\u200d♂\ufe0f"),
   ("man_facepalming", "🤦\u200d♂\ufe0f"), ("man_factory_worker", "👨\u200d🏭"),
   ("man_fairy", "🧚\u200d♂\ufe0f"), ("man_farmer", "👨\u200d🌾"), ("man_firefighter", "👨\u200d🚒"),
   ("man_frowning", "🙍\u200d♂\ufe0f"), ("man_gesturing_no", "🙅\u200d♂\ufe0f"),
   ("man_gesturing_ok", "🙆\u200d♂\ufe0f"), ("man_getting_haircut", "💇\u200d♂\ufe0f"),
   ("man_getting_massage", "💆\u200d♂\ufe0f"), ("man_golfing", "🏌\ufe0f\u200d♂\ufe0f"),
   ("man_guard", "💂\u200d♂\ufe0f"), ("man_health_worker", "👨\u200d⚕\ufe0f"),
   ("man_in_lotus_position", "🧘\u200d♂\ufe0f"), ("man_in_manual_wheelchair", "👨\u200d🦽"),
   ("man_in_motorized_wheelchair", "👨\u200d🦼"), ("man_in_steamy_room", "🧖\u200d♂\ufe0f"),
   ("man_in_suit_levitating", "🕴"), ("man_in_tuxedo", "🤵"), ("man_judge", "👨\u200d⚖\ufe0f"),
   ("man_juggling", "🤹\u200d♂\ufe0f"), ("man_kneeling", "🧎\u200d♂\ufe0f"),
   ("man_lifting_weights", "🏋\ufe0f\u200d♂\ufe0f"), ("man_mage", "🧙\u200d♂\ufe0f"),
   ("man_mechanic", "👨\u200d🔧"), ("man_mountain_biking", "🚵\u200d♂\ufe0f"),
   ("man_office_worker", "👨\u200d💼"), ("man_pilot", "👨\u200d✈\ufe0f"),
   ("man_playing_handball", "🤾\u200d♂\ufe0f"), ("man_playing_water_polo", "🤽\u200d♂\ufe0f"),
   ("man_police_officer", "👮\u200d♂\ufe0f"), ("man_pouting", "🙎\u200d♂\ufe0f"),
   ("man_raising_hand", "🙋\u200d♂\ufe0f"), ("man_red_haired", "👨\u200d🦰"),
   ("man_rowing_boat", "🚣\u200d♂\ufe0f"), ("man_running", "🏃\u200d♂\ufe0f"),
   ("man_scientist", "👨\u200d🔬"), ("man_shrugging", "🤷\u200d♂\ufe0f"), ("man_singer", "👨\u200d🎤"),
   ("man_standing", "🧍\u200d♂\ufe0f"), ("man_student", "👨\u200d🎓"),
   ("man_superhero", "🦸\u200d♂\ufe0f"), ("man_supervillain", "🦹\u200d♂\ufe0f"),
   ("man_surfing", "🏄\u200d♂\ufe0f"), ("man_swimming", "🏊\u200d♂\ufe0f"),
   ("man_teacher", "👨\u200d🏫"), ("man_technologist", "👨\u200d💻"),
   ("man_tipping_hand", "💁\u200d♂\ufe0f"), ("man_vampire", "🧛\u200d♂\ufe0f"),
   ("man_walking", "🚶\u200d♂\ufe0f"), ("man_wearing_turban", "👳\u200d♂\ufe0f"),
   ("man_white_haired", "👨\u200d🦳"), ("man_with_chinese_cap", "👲"),
   ("man_with_probing_cane", "👨\u200d🦯"), ("men_holding_hands", "👬"),
   ("mermaid", "🧜\u200d♀\ufe0f"), ("merman", "🧜\u200d♂\ufe0f"), ("merperson", "🧜"),
   ("middle_finger", "🖕"), ("mrs._claus", "🤶"), ("nail_polish", "💅"), ("nose", "👃"),
   ("ok_hand", "👌"), ("old_man", "👴"), ("old_woman", "👵"), ("older_person", "🧓"),
   ("oncoming_fist", "👊"), ("open_hands", "👐"), ("palms_up_together", "🤲"),
   ("people_with_bunny_ears", "👯"), ("people_wrestling", "🤼"), ("person", "🧑"),
   ("person_biking", "🚴"), ("person_bouncing_ball", "⛹"), ("person_bowing", "🙇"),
   ("person_cartwheeling", "🤸"), ("person_climbing", "🧗"), ("person_facepalming", "🤦"),
   ("person_frowning", "🙍"), ("person_gesturing_no", "🙅"), ("person_gesturing_ok", "🙆"),
   ("person_getting_haircut", "💇"), ("person_getting_massage", "💆"), ("person_golfing", "🏌"),
   ("person_in_bed", "🛌"), ("person_in_lotus_position", "🧘"), ("person_in_steamy_room", "🧖"),
   ("person_juggling", "🤹"), ("person_kneeling", "🧎"), ("person_lifting_weights", "🏋"),
   ("person_mountain_biking", "🚵"), ("person_playing_handball", "🤾"),
   ("person_playing_water_polo", "🤽"), ("person_pouting", "🙎"), ("person_raising_hand", "🙋"),
   ("person_rowing_boat", "🚣"), ("person_running", "🏃"), ("person_shrugging", "🤷"),
   ("person_standing", "🧍"), ("person_surfing", "🏄"), ("person_swimming", "🏊"),
   ("person_taking_bath", "🛀"), ("person_tipping_hand", "💁"), ("person_walking", "🚶"),
   ("person_wearing_turban", "👳"), ("pinching_hand", "🤏"), ("police_officer", "👮"),
   ("pregnant_woman", "🤰"), ("prince", "🤴"), ("princess", "👸"), ("raised_back_of_hand", "🤚"),
   ("raised_fist", "✊"), ("raised_hand", "✋"), ("raising_hands", "🙌"), ("right-facing_fist", "🤜"),
   ("santa_claus", "🎅"), ("selfie", "🤳"), ("sign_of_the_horns", "🤘"), ("snowboarder", "🏂"),
   ("superhero", "🦸"), ("supervillain", "🦹"), ("thumbs_down", "👎"), ("thumbs_up", "👍"),
   ("vampire", "🧛"), ("victory_hand", "✌"), ("vulcan_salute", "🖖"), ("waving_hand", "👋"),
   ("woman", "👩"), ("woman_and_man_holding_hands", "👫"), ("woman_artist", "👩\u200d🎨"),
   ("woman_astronaut", "👩\u200d🚀"), ("woman_biking", "🚴\u200d♀\ufe0f"),
   ("woman_bouncing_ball", "⛹\ufe0f\u200d♀\ufe0f"), ("woman_bowing", "🙇\u200d♀\ufe0f"),
   ("woman_cartwheeling", "🤸\u200d♀\ufe0f"), ("woman_climbing", "🧗\u200d♀\ufe0f"),
   ("woman_construction_worker", "👷\u200d♀\ufe0f"), ("woman_cook", "👩\u200d🍳"),
   ("woman_curly_haired", "👩\u200d🦱"), ("woman_dancing", "💃"),
   ("woman_detective", "🕵\ufe0f\u200d♀\ufe0f"), ("woman_elf", "🧝\u200d♀\ufe0f"),
   ("woman_facepalming", "🤦\u200d♀\ufe0f"), ("woman_factory_worker", "👩\u200d🏭"),
   ("woman_fairy", "🧚\u200d♀\ufe0f"), ("woman_farmer", "👩\u200d🌾"),
   ("woman_firefighter", "👩\u200d🚒"), ("woman_frowning", "🙍\u200d♀\ufe0f"),
   ("woman_gesturing_no", "🙅\u200d♀\ufe0f"), ("woman_gesturing_ok", "🙆\u200d♀\ufe0f"),
   ("woman_getting_haircut", "💇\u200d♀\ufe0f"), ("woman_getting_massage", "💆\u200d♀\ufe0f"),
   ("woman_golfing", "🏌\ufe0f\u200d♀\ufe0f"), ("woman_guard", "💂\u200d♀\ufe0f"),
   ("woman_health_worker", "👩\u200d⚕\ufe0f"), ("woman_in_lotus_position", "🧘\u200d♀\ufe0f"),
   ("woman_in_manual_wheelchair", "👩\u200d🦽"), ("woman_in_motorized_wheelchair", "👩\u200d🦼"),
   ("woman_in_steamy_room", "🧖\u200d♀\ufe0f"), ("woman_judge", "👩\u200d⚖\ufe0f"),
   ("woman_juggling", "🤹\u200d♀\ufe0f"), ("woman_kneeling", "🧎\u200d♀\ufe0f"),
   ("woman_lifting_weights", "🏋\ufe0f\u200d♀\ufe0f"), ("woman_mage", "🧙\u200d♀\ufe0f"),
   ("woman_mechanic", "👩\u200d🔧"), ("woman_mountain_biking", "🚵\u200d♀\ufe0f"),
   ("woman_office_worker", "👩\u200d💼"), ("woman_pilot", "👩\u200d✈\ufe0f"),
   ("woman_playing_handball", "🤾\u200d♀\ufe0f"), ("woman_playing_water_polo", "🤽\u200d♀\ufe0f"),
   ("woman_police_officer", "👮\u200d♀\ufe0f"), ("woman_pouting", "🙎\u200d♀\ufe0f"),
   ("woman_raising_hand", "🙋\u200d♀\ufe0f"), ("woman_red_haired", "👩\u200d🦰"),
   ("woman_rowing_boat", "🚣\u200d♀\ufe0f"), ("woman_running", "🏃\u200d♀\ufe0f"),
   ("woman_scientist", "👩\u200d🔬"), ("woman_shrugging", "🤷\u200d♀\ufe0f"),
   ("woman_singer", "👩\u200d🎤"), ("woman_standing", "🧍\u200d♀\ufe0f"),
   ("woman_student", "👩\u200d🎓"), ("woman_superhero", "🦸\u200d♀\ufe0f"),
   ("woman_supervillain", "🦹\u200d♀\ufe0f"), ("woman_surfing", "🏄\u200d♀\ufe0f"),
   ("woman_swimming", "🏊\u200d♀\ufe0f"), ("woman_teacher", "👩\u200d🏫"),
   ("woman_technologist", "👩\u200d💻"), ("woman_tipping_hand", "💁\u200d♀\ufe0f"),
   ("woman_vampire", "🧛\u200d♀\ufe0f"), ("woman_walking", "🚶\u200d♀\ufe0f"),
   ("woman_wearing_turban", "👳\u200d♀\ufe0f"), ("woman_white_haired", "👩\u200d🦳"),
   ("woman_with_headscarf", "🧕"), ("woman_with_probing_cane", "👩\u200d🦯"),
   ("women_holding_hands", "👭"), ("writing_hand", "✍")]

/-- Further symbols by their names, former ones included. -/
def symbolNames : List (String × String) :=
  [("1st_place_medal", "🥇"), ("2nd_place_medal", "🥈"), ("3rd_place_medal", "🥉"),
   ("__minus_1", "👎"), ("a_button_(blood_type)", "🅰"), ("ab_button_(blood_type)", "🆎"),
   ("abacus", "🧮"), ("adhesive_bandage", "🩹"), ("admission_tickets", "🎟"), ("adult", "🧑"),
   ("airplane_arrival", "🛬"), ("airplane_arriving", "🛬"), ("airplane_departure", "🛫"),
   ("alembic", "⚗"), ("alien_monster", "👾"), ("american_football", "🏈"), ("amphora", "🏺"),
   ("anger_symbol", "💢"), ("angry_face", "😠"), ("angry_face_with_horns", "👿"),
   ("anguished_face", "😧"), ("antenna_bars", "📶"), ("anxious_face_with_sweat", "😰"),
   ("artist_palette", "🎨"), ("astonished_face", "😲"), ("athletic_shoe", "👟"), ("atm_sign", "🏧"),
   ("atom_symbol", "⚛"), ("auto_rickshaw", "🛺"), ("automobile", "🚗"), ("avocado", "🥑"),
   ("axe", "🪓"), ("b_button_(blood_type)", "🅱"), ("back_arrow", "🔙"), ("backpack", "🎒"),
   ("bacon", "🥓"), ("badger", "🦡"), ("badminton", "🏸"), ("badminton_racquet_and_shuttlecock", "🏸"),
   ("bagel", "🥯"), ("baguette_bread", "🥖"), ("balance_scale", "⚖"), ("bald", "🦲"),
   ("ballet_shoes", "🩰"), ("ballot_box_with_ballot", "🗳"), ("banjo", "🪕"), ("barber_pole", "💈"),
   ("basket", "🧺"), ("bat", "🦇"), ("beach_with_umbrella", "🏖"),
   ("beaming_face_with_smiling_eyes", "😁"), ("bear_face", "🐻"), ("bearded_person", "🧔"),
   ("beating_heart", "💓"), ("bed", "🛏"), ("beer_mug", "🍺"), ("bell_with_slash", "🔕"),
   ("bellhop_bell", "🛎"), ("bento_box", "🍱"), ("beverage_box", "🧃"), ("bicycle", "🚲"),
   ("billed_cap", "🧢"), ("biohazard", "☣"), ("biohazard_sign", "☣"), ("birthday_cake", "🎂"),
   ("black_chess_pawn", "♟"), ("black_circle_for_record", "⏺"), ("black_flag", "🏴"),
   ("black_heart", "🖤"), ("black_left-pointing_double_triangle_with_vertical_bar", "⏮"),
   ("black_left__pointing_double_triangle_with_vertical_bar", "⏮"),
   ("black_medium-small_square", "◾"),
   ("black_right-pointing_double_triangle_with_vertical_bar", "⏭"),
   ("black_right-pointing_triangle_with_double_vertical_bar", "⏯"),
   ("black_right__pointing_double_triangle_with_vertical_bar", "⏭"),
   ("black_right__pointing_triangle_with_double_vertical_bar", "⏯"),
   ("black_square_for_stop", "⏹"), ("blue_circle", "🔵"), ("blue_square", "🟦"), ("bone", "🦴"),
   ("bottle_with_popping_cork", "🍾"), ("bow_and_arrow", "🏹"), ("bowl_with_spoon", "🥣"),
   ("boxing_glove", "🥊"), ("brain", "🧠"), ("brick", "🧱"), ("briefs", "🩲"), ("bright_button", "🔆"),
   ("broccoli", "🥦"), ("broom", "🧹"), ("brown_circle", "🟤"), ("brown_heart", "🤎"),
   ("brown_square", "🟫"), ("building_construction", "🏗"), ("bullet_train", "🚅"), ("burrito", "🌯"),
   ("bus_stop", "🚏"), ("butter", "🧈"), ("butterfly", "🦋"), ("camera_with_flash", "📸"),
   ("camping", "🏕"), ("candle", "🕯"), ("canned_food", "🥫"), ("canoe", "🛶"), ("card_file_box", "🗃"),
   ("card_index_dividers", "🗂"), ("carp_streamer", "🎏"), ("carrot", "🥕"), ("castle", "🏰"),
   ("cat_face", "🐱"), ("cat_face_with_tears_of_joy", "😹"), ("cat_face_with_wry_smile", "😼"),
   ("cat_with_tears_of_joy", "😹"), ("cat_with_wry_smile", "😼"), ("chains", "⛓"), ("chair", "🪑"),
   ("chart_decreasing", "📉"), ("chart_increasing", "📈"), ("chart_increasing_with_yen", "💹"),
   ("check_box_with_check", "☑"), ("check_mark", "✔"), ("check_mark_button", "✅"),
   ("cheese_wedge", "🧀"), ("chequered_flag", "🏁"), ("chess_pawn", "♟"), ("chipmunk", "🐿"),
   ("chopsticks", "🥢"), ("cigarette", "🚬"), ("circled_m", "Ⓜ"), ("cityscape", "🏙"),
   ("cityscape_at_dusk", "🌆"), ("cl_button", "🆑"), ("clamp", "🗜"), ("clapper_board", "🎬"),
   ("classical_building", "🏛"), ("clinking_beer_mugs", "🍻"), ("clinking_glasses", "🥂"),
   ("clockwise_vertical_arrows", "🔃"), ("closed_mailbox_with_lowered_flag", "📪"),
   ("closed_mailbox_with_raised_flag", "📫"), ("cloud_with_lightning", "🌩"),
   ("cloud_with_lightning_and_rain", "⛈"), ("cloud_with_rain", "🌧"), ("cloud_with_snow", "🌨"),
   ("cloud_with_tornado", "🌪"), ("clown_face", "🤡"), ("club_suit", "♣"), ("clutch_bag", "👝"),
   ("coat", "🧥"), ("cocktail_glass", "🍸"), ("coconut", "🥥"), ("coffin", "⚰"), ("cold_face", "🥶"),
   ("comet", "☄"), ("compass", "🧭"), ("compression", "🗜"), ("computer_disk", "💽"),
   ("computer_mouse", "🖱"), ("confounded_face", "😖"), ("confused_face", "😕"),
   ("control_knobs", "🎛"), ("cooked_rice", "🍚"), ("cooking", "🍳"), ("cool_button", "🆒"),
   ("couch_and_lamp", "🛋"), ("counterclockwise_arrows_button", "🔄"),
   ("couple_with_heart_man_man", "👨\u200d❤\ufe0f\u200d👨"),
   ("couple_with_heart_woman_man", "👩\u200d❤\ufe0f\u200d👨"),
   ("couple_with_heart_woman_woman", "👩\u200d❤\ufe0f\u200d👩"), ("cow_face", "🐮"),
   ("cowboy_hat_face", "🤠"), ("crab", "🦀"), ("crayon", "🖍"), ("crazy_face", "🤪"), ("cricket", "🦗"),
   ("cricket_bat_and_ball", "🏏"), ("cricket_game", "🏏"), ("croissant", "🥐"), ("cross_mark", "❌"),
   ("cross_mark_button", "❎"), ("crossed_swords", "⚔"), ("crying_cat", "😿"), ("crying_face", "😢"),
   ("cucumber", "🥒"), ("cup_with_straw", "🥤"), ("cupcake", "🧁"), ("curling_stone", "🥌"),
   ("curly_hair", "🦱"), ("curry_and_rice", "🍛"), ("curry_rice", "🍛"), ("cut_of_meat", "🥩"),
   ("dagger", "🗡"), ("dagger_knife", "🗡"), ("dark_skin_tone", "🏿"), ("dark_sunglasses", "🕶"),
   ("dashing_away", "💨"), ("deer", "🦌"), ("delivery_truck", "🚚"), ("derelict_house", "🏚"),
   ("derelict_house_building", "🏚"), ("desert", "🏜"), ("desert_island", "🏝"),
   ("desktop_computer", "🖥"), ("diamond_suit", "♦"), ("diamond_with_a_dot", "💠"),
   ("dim_button", "🔅"), ("direct_hit", "🎯"), ("disappointed_but_relieved_face", "😥"),
   ("disappointed_face", "😞"), ("diving_mask", "🤿"), ("division_sign", "➗"), ("diya_lamp", "🪔"),
   ("dna", "🧬"), ("dog_face", "🐶"), ("dollar_banknote", "💵"), ("dotted_six-pointed_star", "🔯"),
   ("double_curly_loop", "➿"), ("double_exclamation_mark", "‼"), ("double_vertical_bar", "⏸"),
   ("dove", "🕊"), ("dove_of_peace", "🕊"), ("down-left_arrow", "↙"), ("down-right_arrow", "↘"),
   ("down_arrow", "⬇"), ("downcast_face_with_sweat", "😓"), ("downwards_button", "🔽"),
   ("drooling_face", "🤤"), ("drop_of_blood", "🩸"), ("drum", "🥁"), ("duck", "🦆"), ("dumpling", "🥟"),
   ("e__mail", "📧"), ("eagle", "🦅"), ("ear_of_corn", "🌽"), ("eight-pointed_star", "✴"),
   ("eight-spoked_asterisk", "✳"), ("eight-thirty", "🕣"), ("eight_o’clock", "🕗"),
   ("eject_button", "⏏"), ("eject_symbol", "⏏"), ("eleven-thirty", "🕦"), ("eleven_o’clock", "🕚"),
   ("emoji_modifier_fitzpatrick_type-1-2", "🏻"), ("emoji_modifier_fitzpatrick_type-3", "🏼"),
   ("emoji_modifier_fitzpatrick_type-4", "🏽"), ("emoji_modifier_fitzpatrick_type-5", "🏾"),
   ("emoji_modifier_fitzpatrick_type-6", "🏿"), ("emoji_modifier_fitzpatrick_type__1__2", "🏻"),
   ("emoji_modifier_fitzpatrick_type__3", "🏼"), ("emoji_modifier_fitzpatrick_type__4", "🏽"),
   ("emoji_modifier_fitzpatrick_type__5", "🏾"), ("emoji_modifier_fitzpatrick_type__6", "🏿"),
   ("end_arrow", "🔚"), ("euro_banknote", "💶"), ("ewe", "🐑"), ("exclamation_mark", "❗"),
   ("exclamation_question_mark", "⁉"), ("exploding_head", "🤯"), ("expressionless_face", "😑"),
   ("eye", "👁"), ("eye_in_speech_bubble", "👁\ufe0f\u200d🗨\ufe0f"), ("face_blowing_a_kiss", "😘"),
   ("face_savoring_food", "😋"), ("face_savouring_delicious_food", "😋"),
   ("face_screaming_in_fear", "😱"), ("face_vomiting", "🤮"), ("face_with_cold_sweat", "😓"),
   ("face_with_hand_over_mouth", "🤭"), ("face_with_head-bandage", "🤕"),
   ("face_with_head__bandage", "🤕"), ("face_with_medical_mask", "😷"), ("face_with_monocle", "🧐"),
   ("face_with_open_mouth", "😮"), ("face_with_open_mouth_&_cold_sweat", "😰"),
   ("face_with_raised_eyebrow", "🤨"), ("face_with_rolling_eyes", "🙄"),
   ("face_with_steam_from_nose", "😤"), ("face_with_stuck-out_tongue", "😛"),
   ("face_with_stuck-out_tongue_&_closed_eyes", "😝"),
   ("face_with_stuck-out_tongue_&_winking_eye", "😜"), ("face_with_symbols_on_mouth", "🤬"),
   ("face_with_tears_of_joy", "😂"), ("face_with_thermometer", "🤒"), ("face_with_tongue", "😛"),
   ("face_without_mouth", "😶"), ("falafel", "🧆"), ("family_man_boy", "👨\u200d👦"),
   ("family_man_boy_boy", "👨\u200d👦\u200d👦"), ("family_man_girl", "👨\u200d👧"),
   ("family_man_girl_boy", "👨\u200d👧\u200d👦"), ("family_man_girl_girl", "👨\u200d👧\u200d👧"),
   ("family_man_man_boy", "👨\u200d👨\u200d👦"), ("family_man_man_boy_boy", "👨\u200d👨\u200d👦\u200d👦"),
   ("family_man_man_girl", "👨\u200d👨\u200d👧"),
   ("family_man_man_girl_boy", "👨\u200d👨\u200d👧\u200d👦"),
   ("family_man_man_girl_girl", "👨\u200d👨\u200d👧\u200d👧"),
   ("family_man_woman_boy", "👨\u200d👩\u200d👦"),
   ("family_man_woman_boy_boy", "👨\u200d👩\u200d👦\u200d👦"),
   ("family_man_woman_girl", "👨\u200d👩\u200d👧"),
   ("family_man_woman_girl_boy", "👨\u200d👩\u200d👧\u200d👦"),
   ("family_man_woman_girl_girl", "👨\u200d👩\u200d👧\u200d👧"), ("family_woman_boy", "👩\u200d👦"),
   ("family_woman_boy_boy", "👩\u200d👦\u200d👦"), ("family_woman_girl", "👩\u200d👧"),
   ("family_woman_girl_boy", "👩\u200d👧\u200d👦"), ("family_woman_girl_girl", "👩\u200d👧\u200d👧"),
   ("family_woman_woman_boy", "👩\u200d👩\u200d👦"),
   ("family_woman_woman_boy_boy", "👩\u200d👩\u200d👦\u200d👦"),
   ("family_woman_woman_girl", "👩\u200d👩\u200d👧"),
   ("family_woman_woman_girl_boy", "👩\u200d👩\u200d👧\u200d👦"),
   ("family_woman_woman_girl_girl", "👩\u200d👩\u200d👧\u200d👧"), ("fast-forward_button", "⏩"),
   ("fast_down_button", "⏬"), ("fast_reverse_button", "⏪"), ("fast_up_button", "⏫"),
   ("fax_machine", "📠"), ("fearful_face", "😨"), ("female_sign", "♀"), ("ferry", "⛴"),
   ("field_hockey", "🏑"), ("field_hockey_stick_and_ball", "🏑"), ("file_cabinet", "🗄"),
   ("film_frames", "🎞"), ("film_projector", "📽"), ("fire_extinguisher", "🧯"), ("firecracker", "🧨"),
   ("first_quarter_moon_face", "🌛"), ("fish_cake_with_swirl", "🍥"), ("fishing_pole", "🎣"),
   ("five-thirty", "🕠"), ("five_o’clock", "🕔"), ("flag_for_cocos__islands", "🇨🇨"),
   ("flag_for_congo____brazzaville", "🇨🇬"), ("flag_for_congo____kinshasa", "🇨🇩"),
   ("flag_for_guinea__bissau", "🇬🇼"), ("flag_for_timor__leste", "🇹🇱"), ("flag_in_hole", "⛳"),
   ("flamingo", "🦩"), ("flat_shoe", "🥿"), ("fleur-de-lis", "⚜"), ("fleur__de__lis", "⚜"),
   ("flushed_face", "😳"), ("flying_disc", "🥏"), ("flying_saucer", "🛸"), ("fog", "🌫"),
   ("footprints", "👣"), ("fork_and_knife_with_plate", "🍽"), ("fortune_cookie", "🥠"),
   ("fountain_pen", "🖋"), ("four-thirty", "🕟"), ("four_o’clock", "🕓"), ("fox", "🦊"),
   ("fox_face", "🦊"), ("frame_with_picture", "🖼"), ("framed_picture", "🖼"), ("free_button", "🆓"),
   ("french_fries", "🍟"), ("frog_face", "🐸"), ("front-facing_baby_chick", "🐥"),
   ("frowning_face", "☹"), ("frowning_face_with_open_mouth", "😦"), ("fuel_pump", "⛽"),
   ("full_moon_face", "🌝"), ("funeral_urn", "⚱"), ("garlic", "🧄"), ("gear", "⚙"),
   ("gem_stone", "💎"), ("genie", "🧞"), ("giraffe", "🦒"), ("glass_of_milk", "🥛"), ("glasses", "👓"),
   ("globe_showing_americas", "🌎"), ("globe_showing_asia-australia", "🌏"),
   ("globe_showing_europe-africa", "🌍"), ("gloves", "🧤"), ("glowing_star", "🌟"), ("goal_net", "🥅"),
   ("goblin", "👺"), ("goggles", "🥽"), ("golfer", "🏌"), ("gorilla", "🦍"), ("graduation_cap", "🎓"),
   ("green_circle", "🟢"), ("green_salad", "🥗"), ("green_square", "🟩"), ("grimacing_face", "😬"),
   ("grinning_cat", "😺"), ("grinning_cat_face_with_smiling_eyes", "😸"),
   ("grinning_cat_with_smiling_eyes", "😸"), ("grinning_face", "😀"),
   ("grinning_face_with_big_eyes", "😃"), ("grinning_face_with_smiling_eyes", "😄"),
   ("grinning_face_with_sweat", "😅"), ("grinning_squinting_face", "😆"), ("growing_heart", "💗"),
   ("guide_dog", "🦮"), ("hammer_and_pick", "⚒"), ("hammer_and_wrench", "🛠"), ("hamster_face", "🐹"),
   ("headphone", "🎧"), ("hear-no-evil_monkey", "🙉"), ("heart_exclamation", "❣"),
   ("heart_suit", "♥"), ("heart_with_arrow", "💘"), ("heart_with_ribbon", "💝"),
   ("heavy_heart_exclamation", "❣"), ("heavy_heart_exclamation_mark_ornament", "❣"),
   ("heavy_large_circle", "⭕"), ("hedgehog", "🦔"), ("helm_symbol", "⎈"),
   ("helmet_with_white_cross", "⛑"), ("high-heeled_shoe", "👠"), ("high-speed_train", "🚄"),
   ("high_voltage", "⚡"), ("hiking_boot", "🥾"), ("hindu_temple", "🛕"), ("hippopotamus", "🦛"),
   ("hole", "🕳"), ("hollow_red_circle", "⭕"), ("horizontal_traffic_light", "🚥"),
   ("horse_face", "🐴"), ("hot_beverage", "☕"), ("hot_dog", "🌭"), ("hot_face", "🥵"),
   ("hot_pepper", "🌶"), ("hot_springs", "♨"), ("hourglass_done", "⌛"), ("hourglass_not_done", "⏳"),
   ("hourglass_with_flowing_sand", "⏳"), ("house_buildings", "🏘"), ("houses", "🏘"),
   ("hugging_face", "🤗"), ("hundred_points", "💯"), ("hushed_face", "😯"), ("ice", "🧊"),
   ("ice_hockey", "🏒"), ("ice_hockey_stick_and_puck", "🏒"), ("ice_skate", "⛸"), ("id_button", "🆔"),
   ("infinity", "♾"), ("information", "ℹ"), ("input_latin_letters", "🔤"),
   ("input_latin_lowercase", "🔡"), ("input_latin_uppercase", "🔠"), ("input_numbers", "🔢"),
   ("input_symbols", "🔣"), ("jack-o-lantern", "🎃"), ("japanese_acceptable_button", "🉑"),
   ("japanese_application_button", "🈸"), ("japanese_bargain_button", "🉐"),
   ("japanese_congratulations_button", "㊗"), ("japanese_discount_button", "🈹"),
   ("japanese_dolls", "🎎"), ("japanese_free_of_charge_button", "🈚"), ("japanese_here_button", "🈁"),
   ("japanese_monthly_amount_button", "🈷"), ("japanese_no_vacancy_button", "🈵"),
   ("japanese_not_free_of_charge_button", "🈶"), ("japanese_open_for_business_button", "🈺"),
   ("japanese_passing_grade_button", "🈴"), ("japanese_post_office", "🏣"),
   ("japanese_prohibited_button", "🈲"), ("japanese_reserved_button", "🈯"),
   ("japanese_secret_button", "㊙"), ("japanese_service_charge_button", "🈂"),
   ("japanese_symbol_for_beginner", "🔰"), ("japanese_vacancy_button", "🈳"),
   ("japanese_“acceptable”_button", "🉑"), ("japanese_“application”_button", "🈸"),
   ("japanese_“bargain”_button", "🉐"), ("japanese_“congratulations”_button", "㊗"),
   ("japanese_“discount”_button", "🈹"), ("japanese_“free_of_charge”_button", "🈚"),
   ("japanese_“here”_button", "🈁"), ("japanese_“monthly_amount”_button", "🈷"),
   ("japanese_“no_vacancy”_button", "🈵"), ("japanese_“not_free_of_charge”_button", "🈶"),
   ("japanese_“open_for_business”_button", "🈺"), ("japanese_“passing_grade”_button", "🈴"),
   ("japanese_“prohibited”_button", "🈲"), ("japanese_“reserved”_button", "🈯"),
   ("japanese_“secret”_button", "㊙"), ("japanese_“service_charge”_button", "🈂"),
   ("japanese_“vacancy”_button", "🈳"), ("joker", "🃏"), ("joystick", "🕹"), ("kaaba", "🕋"),
   ("kangaroo", "🦘"), ("keyboard", "⌨"), ("keycap_#", "#\ufe0f\u20e3"),
   ("keycap_*", "*\ufe0f\u20e3"), ("keycap_0", "0\ufe0f\u20e3"), ("keycap_1", "1\ufe0f\u20e3"),
   ("keycap_10", "🔟"), ("keycap_2", "2\ufe0f\u20e3"), ("keycap_3", "3\ufe0f\u20e3"),
   ("keycap_4", "4\ufe0f\u20e3"), ("keycap_5", "5\ufe0f\u20e3"), ("keycap_6", "6\ufe0f\u20e3"),
   ("keycap_7", "7\ufe0f\u20e3"), ("keycap_8", "8\ufe0f\u20e3"), ("keycap_9", "9\ufe0f\u20e3"),
   ("keycap_asterisk", "*\u20e3"), ("keycap_digit_eight", "8\u20e3"),
   ("keycap_digit_five", "5\u20e3"), ("keycap_digit_four", "4\u20e3"),
   ("keycap_digit_nine", "9\u20e3"), ("keycap_digit_one", "1\u20e3"),
   ("keycap_digit_seven", "7\u20e3"), ("keycap_digit_six", "6\u20e3"),
   ("keycap_digit_three", "3\u20e3"), ("keycap_digit_two", "2\u20e3"),
   ("keycap_digit_zero", "0\u20e3"), ("keycap_number_sign", "#\u20e3"), ("kick_scooter", "🛴"),
   ("kiss_man_man", "👨\u200d❤\ufe0f\u200d💋\u200d👨"), ("kiss_mark", "💋"),
   ("kiss_woman_man", "👩\u200d❤\ufe0f\u200d💋\u200d👨"),
   ("kiss_woman_woman", "👩\u200d❤\ufe0f\u200d💋\u200d👩"),
   ("kissing_cat_face_with_closed_eyes", "😽"), ("kissing_face", "😗"),
   ("kissing_face_with_closed_eyes", "😚"), ("kissing_face_with_smiling_eyes", "😙"),
   ("kitchen_knife", "🔪"), ("kite", "🪁"), ("kiwi_fruit", "🥝"), ("lab_coat", "🥼"), ("label", "🏷"),
   ("lacrosse", "🥍"), ("lady_beetle", "🐞"), ("laptop", "💻"), ("laptop_computer", "💻"),
   ("last_quarter_moon_face", "🌜"), ("last_track_button", "⏮"), ("latin_cross", "✝"),
   ("leaf_fluttering_in_wind", "🍃"), ("leafy_green", "🥬"), ("left-right_arrow", "↔"),
   ("left_arrow", "⬅"), ("left_arrow_curving_right", "↪"), ("left_speech_bubble", "🗨"),
   ("level_slider", "🎚"), ("light_bulb", "💡"), ("light_skin_tone", "🏻"),
   ("linked_paperclips", "🖇"), ("lion", "🦁"), ("lion_face", "🦁"), ("litter_in_bin_sign", "🚮"),
   ("lizard", "🦎"), ("llama", "🦙"), ("lobster", "🦞"), ("locked", "🔒"), ("locked_with_key", "🔐"),
   ("locked_with_pen", "🔏"), ("locomotive", "🚂"), ("lotion_bottle", "🧴"),
   ("loudly_crying_face", "😭"), ("lower_left_ballpoint_pen", "🖊"), ("lower_left_crayon", "🖍"),
   ("lower_left_fountain_pen", "🖋"), ("lower_left_paintbrush", "🖌"), ("luggage", "🧳"),
   ("lying_face", "🤥"), ("magnet", "🧲"), ("magnifying_glass_tilted_left", "🔍"),
   ("magnifying_glass_tilted_right", "🔎"), ("mahjong_red_dragon", "🀄"), ("male_sign", "♂"),
   ("male_with_stroke_and_male_and_female_sign", "⚧"), ("man_and_woman_holding_hands", "👫"),
   ("man_bald", "👨\u200d🦲"), ("man_beard", "🧔"), ("man_blond_hair", "👱\u200d♂\ufe0f"),
   ("man_curly_hair", "👨\u200d🦱"), ("man_dark_skin_tone_bald", "👨🏿\u200d🦲"),
   ("man_dark_skin_tone_curly_hair", "👨🏿\u200d🦱"), ("man_dark_skin_tone_red_hair", "👨🏿\u200d🦰"),
   ("man_dark_skin_tone_white_hair", "👨🏿\u200d🦳"), ("man_genie", "🧞\u200d♂\ufe0f"),
   ("man_in_business_suit_levitating", "🕴"), ("man_light_skin_tone_bald", "👨🏻\u200d🦲"),
   ("man_light_skin_tone_curly_hair", "👨🏻\u200d🦱"), ("man_light_skin_tone_red_hair", "👨🏻\u200d🦰"),
   ("man_light_skin_tone_white_hair", "👨🏻\u200d🦳"),
   ("man_medium-dark_skin_tone_bald", "👨🏾\u200d🦲"),
   ("man_medium-dark_skin_tone_curly_hair", "👨🏾\u200d🦱"),
   ("man_medium-dark_skin_tone_red_hair", "👨🏾\u200d🦰"),
   ("man_medium-dark_skin_tone_white_hair", "👨🏾\u200d🦳"),
   ("man_medium-light_skin_tone_bald", "👨🏼\u200d🦲"),
   ("man_medium-light_skin_tone_curly_hair", "👨🏼\u200d🦱"),
   ("man_medium-light_skin_tone_red_hair", "👨🏼\u200d🦰"),
   ("man_medium-light_skin_tone_white_hair", "👨🏼\u200d🦳"),
   ("man_medium_skin_tone_bald", "👨🏽\u200d🦲"), ("man_medium_skin_tone_curly_hair", "👨🏽\u200d🦱"),
   ("man_medium_skin_tone_red_hair", "👨🏽\u200d🦰"),
   ("man_medium_skin_tone_white_hair", "👨🏽\u200d🦳"), ("man_red_hair", "👨\u200d🦰"),
   ("man_white_hair", "👨\u200d🦳"), ("man_zombie", "🧟\u200d♂\ufe0f"), ("mango", "🥭"),
   ("mantelpiece_clock", "🕰"), ("manual_wheelchair", "🦽"), ("man’s_shoe", "👞"),
   ("map_of_japan", "🗾"), ("martial_arts_uniform", "🥋"), ("mate", "🧉"), ("mechanical_arm", "🦾"),
   ("mechanical_leg", "🦿"), ("medical_symbol", "⚕"), ("medium-dark_skin_tone", "🏾"),
   ("medium-light_skin_tone", "🏼"), ("medium_dark_skin_tone", "🏾"),
   ("medium_light_skin_tone", "🏼"), ("medium_skin_tone", "🏽"), ("megaphone", "📣"),
   ("men_with_bunny_ears", "👯\u200d♂\ufe0f"), ("men_wrestling", "🤼\u200d♂\ufe0f"),
   ("menorah", "🕎"), ("menorah_with_nine_branches", "🕎"), ("men’s_room", "🚹"), ("microbe", "🦠"),
   ("military_medal", "🎖"), ("minus_sign", "➖"), ("moai", "🗿"), ("mobile_phone", "📱"),
   ("mobile_phone_with_arrow", "📲"), ("money-mouth_face", "🤑"), ("money__mouth_face", "🤑"),
   ("money_bag", "💰"), ("moon_cake", "🥮"), ("moon_viewing_ceremony", "🎑"), ("mosque", "🕌"),
   ("mosquito", "🦟"), ("motor_boat", "🛥"), ("motor_scooter", "🛵"), ("motorcycle", "🏍"),
   ("motorized_wheelchair", "🦼"), ("motorway", "🛣"), ("mountain", "⛰"), ("mouse_face", "🐭"),
   ("mouth", "👄"), ("multiplication_sign", "✖"), ("musical_notes", "🎶"), ("muted_speaker", "🔇"),
   ("national_park", "🏞"), ("nauseated_face", "🤢"), ("nazar_amulet", "🧿"), ("nerd_face", "🤓"),
   ("new_button", "🆕"), ("new_moon_face", "🌚"), ("next_track_button", "⏭"), ("ng_button", "🆖"),
   ("nine-thirty", "🕤"), ("nine_o’clock", "🕘"), ("no_littering", "🚯"),
   ("no_one_under_eighteen", "🔞"), ("non__potable_water", "🚱"), ("o_button_(blood_type)", "🅾"),
   ("office_building", "🏢"), ("ogre", "👹"), ("oil_drum", "🛢"), ("ok_button", "🆗"),
   ("old_key", "🗝"), ("older_adult", "🧓"), ("om", "🕉"), ("om_symbol", "🕉"), ("on!_arrow", "🔛"),
   ("one-piece_swimsuit", "🩱"), ("one-thirty", "🕜"), ("one_o’clock", "🕐"), ("onion", "🧅"),
   ("open_mailbox_with_lowered_flag", "📭"), ("open_mailbox_with_raised_flag", "📬"),
   ("optical_disk", "💿"), ("orange_circle", "🟠"), ("orange_heart", "🧡"), ("orange_square", "🟧"),
   ("orangutan", "🦧"), ("orthodox_cross", "☦"), ("otter", "🦦"), ("owl", "🦉"), ("oyster", "🦪"),
   ("p_button", "🅿"), ("package", "📦"), ("paintbrush", "🖌"), ("pancakes", "🥞"), ("panda", "🐼"),
   ("parachute", "🪂"), ("parrot", "🦜"), ("party_popper", "🎉"), ("partying_face", "🥳"),
   ("passenger_ship", "🛳"), ("pause_button", "⏸"), ("peace_symbol", "☮"), ("peacock", "🦚"),
   ("peanuts", "🥜"), ("pen", "🖊"), ("pensive_face", "😔"),
   ("people_holding_hands", "🧑\u200d🤝\u200d🧑"), ("permanent_paper_sign", "♾"),
   ("persevering_face", "😣"), ("person_blond_hair", "👱"), ("person_fencing", "🤺"),
   ("person_with_ball", "⛹"), ("person_with_skullcap", "👲"), ("petri_dish", "🧫"), ("pick", "⛏"),
   ("pie", "🥧"), ("pig_face", "🐷"), ("pile_of_poo", "💩"), ("pine_decoration", "🎍"),
   ("ping_pong", "🏓"), ("pirate_flag", "🏴\u200d☠\ufe0f"), ("pistol", "🔫"),
   ("place_of_worship", "🛐"), ("play_button", "▶"), ("play_or_pause_button", "⏯"),
   ("pleading_face", "🥺"), ("plus_sign", "➕"), ("police_car_light", "🚨"), ("pool_8_ball", "🎱"),
   ("popcorn", "🍿"), ("pot_of_food", "🍲"), ("potato", "🥔"), ("pound_banknote", "💷"),
   ("pouting_cat_face", "😾"), ("pouting_face", "😡"), ("prayer_beads", "📿"), ("pretzel", "🥨"),
   ("printer", "🖨"), ("probing_cane", "🦯"), ("prohibited", "🚫"), ("purple_circle", "🟣"),
   ("purple_square", "🟪"), ("puzzle_piece", "🧩"), ("question_mark", "❓"), ("rabbit_face", "🐰"),
   ("raccoon", "🦝"), ("racing_car", "🏎"), ("racing_motorcycle", "🏍"), ("radioactive", "☢"),
   ("radioactive_sign", "☢"), ("railway_track", "🛤"), ("rainbow_flag", "🏳\ufe0f\u200d🌈"),
   ("raised_hand_with_fingers_splayed", "🖐"),
   ("raised_hand_with_part_between_middle_and_ring_fingers", "🖖"), ("razor", "🪒"),
   ("receipt", "🧾"), ("record_button", "⏺"), ("recycling_symbol", "♻"), ("red_apple", "🍎"),
   ("red_envelope", "🧧"), ("red_hair", "🦰"), ("red_heart", "❤"), ("red_paper_lantern", "🏮"),
   ("red_square", "🟥"), ("red_triangle_pointed_down", "🔻"), ("red_triangle_pointed_up", "🔺"),
   ("relieved_face", "😌"), ("reminder_ribbon", "🎗"), ("repeat_button", "🔁"),
   ("repeat_single_button", "🔂"), ("rescue_worker’s_helmet", "⛑"), ("reverse_button", "◀"),
   ("reversed_hand_with_middle_finger_extended", "🖕"), ("rhinoceros", "🦏"),
   ("right_anger_bubble", "🗯"), ("right_arrow", "➡"), ("right_arrow_curving_down", "⤵"),
   ("right_arrow_curving_left", "↩"), ("right_arrow_curving_up", "⤴"), ("ringed_planet", "🪐"),
   ("roasted_sweet_potato", "🍠"), ("robot", "🤖"), ("robot_face", "🤖"), ("roll_of_paper", "🧻"),
   ("rolled-up_newspaper", "🗞"), ("rolled__up_newspaper", "🗞"),
   ("rolling_on_the_floor_laughing", "🤣"), ("rosette", "🏵"), ("running_shirt", "🎽"),
   ("running_shoe", "👟"), ("sad_but_relieved_face", "😥"), ("safety_pin", "🧷"),
   ("safety_vest", "🦺"), ("salt", "🧂"), ("sandwich", "🥪"), ("sari", "🥻"), ("satellite", "🛰"),
   ("satellite_antenna", "📡"), ("sauropod", "🦕"), ("scales", "⚖"), ("scarf", "🧣"),
   ("school_backpack", "🎒"), ("scorpio", "♏"), ("scorpion", "🦂"), ("see-no-evil_monkey", "🙈"),
   ("service_dog", "🐕\u200d🦺"), ("seven-thirty", "🕢"), ("seven_o’clock", "🕖"),
   ("shallow_pan_of_food", "🥘"), ("shamrock", "☘"), ("shark", "🦈"), ("sheaf_of_rice", "🌾"),
   ("shield", "🛡"), ("shinto_shrine", "⛩"), ("shooting_star", "🌠"), ("shopping_bags", "🛍"),
   ("shopping_cart", "🛒"), ("shortcake", "🍰"), ("shorts", "🩳"), ("shrimp", "🦐"),
   ("shuffle_tracks_button", "🔀"), ("shushing_face", "🤫"), ("six-thirty", "🕡"),
   ("six_o’clock", "🕕"), ("skateboard", "🛹"), ("skier", "⛷"), ("skis", "🎿"),
   ("skull_and_crossbones", "☠"), ("skunk", "🦨"), ("sled", "🛷"), ("sleeping_accommodation", "🛌"),
   ("sleeping_face", "😴"), ("sleepy_face", "😪"), ("sleuth_or_spy", "🕵"),
   ("slightly_frowning_face", "🙁"), ("slightly_smiling_face", "🙂"), ("sloth", "🦥"),
   ("small_airplane", "🛩"), ("smiling_cat_face_with_heart-eyes", "😻"),
   ("smiling_cat_face_with_open_mouth", "😺"), ("smiling_cat_with_heart-eyes", "😻"),
   ("smiling_face", "☺"), ("smiling_face_with_halo", "😇"), ("smiling_face_with_heart-eyes", "😍"),
   ("smiling_face_with_hearts", "🥰"), ("smiling_face_with_horns", "😈"),
   ("smiling_face_with_open_mouth", "😃"), ("smiling_face_with_open_mouth_&_closed_eyes", "😆"),
   ("smiling_face_with_open_mouth_&_cold_sweat", "😅"),
   ("smiling_face_with_open_mouth_&_smiling_eyes", "😄"), ("smiling_face_with_smiling_eyes", "😊"),
   ("smiling_face_with_sunglasses", "😎"), ("smirking_face", "😏"), ("sneezing_face", "🤧"),
   ("snow-capped_mountain", "🏔"), ("snow_capped_mountain", "🏔"), ("snowman", "☃"),
   ("snowman_without_snow", "⛄"), ("soap", "🧼"), ("soccer_ball", "⚽"), ("socks", "🧦"),
   ("soft_ice_cream", "🍦"), ("softball", "🥎"), ("soon_arrow", "🔜"), ("sos_button", "🆘"),
   ("spade_suit", "♠"), ("speak-no-evil_monkey", "🙊"), ("speaker_high_volume", "🔊"),
   ("speaker_low_volume", "🔈"), ("speaker_medium_volume", "🔉"), ("speaking_head", "🗣"),
   ("speaking_head_in_silhouette", "🗣"), ("spider", "🕷"), ("spider_web", "🕸"),
   ("spiral_calendar", "🗓"), ("spiral_calendar_pad", "🗓"), ("spiral_note_pad", "🗒"),
   ("spiral_notepad", "🗒"), ("spiral_shell", "🐚"), ("sponge", "🧽"), ("spoon", "🥄"),
   ("sport_utility_vehicle", "🚙"), ("sports_medal", "🏅"), ("spouting_whale", "🐳"), ("squid", "🦑"),
   ("squinting_face_with_tongue", "😝"), ("stadium", "🏟"), ("staff_of_aesculapius", "⚕"),
   ("star-struck", "🤩"), ("star_and_crescent", "☪"), ("star_of_david", "✡"),
   ("steaming_bowl", "🍜"), ("stethoscope", "🩺"), ("stop_button", "⏹"), ("stop_sign", "🛑"),
   ("stopwatch", "⏱"), ("studio_microphone", "🎙"), ("stuffed_flatbread", "🥙"), ("sun", "☀"),
   ("sun_behind_cloud", "⛅"), ("sun_behind_large_cloud", "🌥"), ("sun_behind_rain_cloud", "🌦"),
   ("sun_behind_small_cloud", "🌤"), ("sunset", "🌇"), ("swan", "🦢"), ("sweat_droplets", "💦"),
   ("synagogue", "🕍"), ("t-rex", "🦖"), ("t-shirt", "👕"), ("table_tennis_paddle_and_ball", "🏓"),
   ("taco", "🌮"), ("takeout_box", "🥡"), ("teacup_without_handle", "🍵"), ("tear-off_calendar", "📆"),
   ("teddy_bear", "🧸"), ("television", "📺"), ("ten-thirty", "🕥"), ("ten_o’clock", "🕙"),
   ("test_tube", "🧪"), ("thermometer", "🌡"), ("thinking_face", "🤔"), ("thread", "🧵"),
   ("three-thirty", "🕞"), ("three_button_mouse", "🖱"), ("three_o’clock", "🕒"),
   ("thunder_cloud_and_rain", "⛈"), ("tiger_face", "🐯"), ("timer_clock", "⏲"), ("toolbox", "🧰"),
   ("tooth", "🦷"), ("top_arrow", "🔝"), ("top_hat", "🎩"), ("tornado", "🌪"), ("trackball", "🖲"),
   ("trade_mark", "™"), ("tram_car", "🚋"), ("triangular_flag", "🚩"), ("trident_emblem", "🔱"),
   ("tumbler_glass", "🥃"), ("turkey", "🦃"), ("twelve-thirty", "🕧"), ("twelve_o’clock", "🕛"),
   ("two-hump_camel", "🐫"), ("two-thirty", "🕝"), ("two_o’clock", "🕑"), ("umbrella", "☂"),
   ("umbrella_on_ground", "⛱"), ("umbrella_with_rain_drops", "☔"), ("unamused_face", "😒"),
   ("unicorn", "🦄"), ("unicorn_face", "🦄"), ("unlocked", "🔓"), ("up!_button", "🆙"),
   ("up-down_arrow", "↕"), ("up-left_arrow", "↖"), ("up-right_arrow", "↗"), ("up_arrow", "⬆"),
   ("upside-down_face", "🙃"), ("upside__down_face", "🙃"), ("upwards_button", "🔼"),
   ("videocassette", "📼"), ("volleyball", "🏐"), ("vs_button", "🆚"), ("waffle", "🧇"),
   ("wastebasket", "🗑"), ("water_closet", "🚾"), ("water_wave", "🌊"), ("waving_black_flag", "🏴"),
   ("waving_white_flag", "🏳"), ("weary_cat", "🙀"), ("weary_cat_face", "🙀"), ("weary_face", "😩"),
   ("weight_lifter", "🏋"), ("wheel_of_dharma", "☸"), ("wheelchair_symbol", "♿"),
   ("white_exclamation_mark", "❕"), ("white_flag", "🏳"), ("white_frowning_face", "☹"),
   ("white_hair", "🦳"), ("white_heart", "🤍"), ("white_heavy_check_mark", "✅"),
   ("white_medium-small_square", "◽"), ("white_medium_star", "⭐"), ("white_question_mark", "❔"),
   ("white_sun_behind_cloud", "🌥"), ("white_sun_behind_cloud_with_rain", "🌦"),
   ("white_sun_with_small_cloud", "🌤"), ("wilted_flower", "🥀"), ("wind_blowing_face", "🌬"),
   ("wind_face", "🌬"), ("winking_face", "😉"), ("winking_face_with_tongue", "😜"),
   ("wolf_face", "🐺"), ("woman_bald", "👩\u200d🦲"), ("woman_blond_hair", "👱\u200d♀\ufe0f"),
   ("woman_curly_hair", "👩\u200d🦱"), ("woman_dark_skin_tone_bald", "👩🏿\u200d🦲"),
   ("woman_dark_skin_tone_curly_hair", "👩🏿\u200d🦱"),
   ("woman_dark_skin_tone_red_hair", "👩🏿\u200d🦰"),
   ("woman_dark_skin_tone_white_hair", "👩🏿\u200d🦳"), ("woman_genie", "🧞\u200d♀\ufe0f"),
   ("woman_light_skin_tone_bald", "👩🏻\u200d🦲"), ("woman_light_skin_tone_curly_hair", "👩🏻\u200d🦱"),
   ("woman_light_skin_tone_red_hair", "👩🏻\u200d🦰"),
   ("woman_light_skin_tone_white_hair", "👩🏻\u200d🦳"),
   ("woman_medium-dark_skin_tone_bald", "👩🏾\u200d🦲"),
   ("woman_medium-dark_skin_tone_curly_hair", "👩🏾\u200d🦱"),
   ("woman_medium-dark_skin_tone_red_hair", "👩🏾\u200d🦰"),
   ("woman_medium-dark_skin_tone_white_hair", "👩🏾\u200d🦳"),
   ("woman_medium-light_skin_tone_bald", "👩🏼\u200d🦲"),
   ("woman_medium-light_skin_tone_curly_hair", "👩🏼\u200d🦱"),
   ("woman_medium-light_skin_tone_red_hair", "👩🏼\u200d🦰"),
   ("woman_medium-light_skin_tone_white_hair", "👩🏼\u200d🦳"),
   ("woman_medium_skin_tone_bald", "👩🏽\u200d🦲"),
   ("woman_medium_skin_tone_curly_hair", "👩🏽\u200d🦱"),
   ("woman_medium_skin_tone_red_hair", "👩🏽\u200d🦰"),
   ("woman_medium_skin_tone_white_hair", "👩🏽\u200d🦳"), ("woman_red_hair", "👩\u200d🦰"),
   ("woman_white_hair", "👩\u200d🦳"), ("woman_zombie", "🧟\u200d♀\ufe0f"), ("woman’s_boot", "👢"),
   ("woman’s_clothes", "👚"), ("woman’s_hat", "👒"), ("woman’s_sandal", "👡"),
   ("women_with_bunny_ears", "👯\u200d♀\ufe0f"), ("women_wrestling", "🤼\u200d♀\ufe0f"),
   ("women’s_room", "🚺"), ("woozy_face", "🥴"), ("world_map", "🗺"), ("worried_face", "😟"),
   ("wrapped_gift", "🎁"), ("yarn", "🧶"), ("yawning_face", "🥱"), ("yellow_circle", "🟡"),
   ("yellow_square", "🟨"), ("yen_banknote", "💴"), ("yin_yang", "☯"), ("yo-yo", "🪀"),
   ("zany_face", "🤪"), ("zebra", "🦓"), ("zipper-mouth_face", "🤐"), ("zipper__mouth_face", "🤐"),
   ("zombie", "🧟")]

/-- Regions by their names, with the two letters of their flags. -/
def regionNames : List (String × String) :=
  [("afghanistan", "AF"), ("albania", "AL"), ("algeria", "DZ"), ("american_samoa", "AS"),
   ("andorra", "AD"), ("angola", "AO"), ("anguilla", "AI"), ("antarctica", "AQ"),
   ("antigua_&_barbuda", "AG"), ("argentina", "AR"), ("armenia", "AM"), ("aruba", "AW"),
   ("ascension_island", "AC"), ("australia", "AU"), ("austria", "AT"), ("azerbaijan", "AZ"),
   ("bahamas", "BS"), ("bahrain", "BH"), ("bangladesh", "BD"), ("barbados", "BB"),
   ("belarus", "BY"), ("belgium", "BE"), ("belize", "BZ"), ("benin", "BJ"), ("bermuda", "BM"),
   ("bhutan", "BT"), ("bolivia", "BO"), ("bosnia_&_herzegovina", "BA"), ("botswana", "BW"),
   ("bouvet_island", "BV"), ("brazil", "BR"), ("british_indian_ocean_territory", "IO"),
   ("british_virgin_islands", "VG"), ("brunei", "BN"), ("bulgaria", "BG"), ("burkina_faso", "BF"),
   ("burundi", "BI"), ("cambodia", "KH"), ("cameroon", "CM"), ("canada", "CA"),
   ("canary_islands", "IC"), ("cape_verde", "CV"), ("caribbean_netherlands", "BQ"),
   ("cayman_islands", "KY"), ("central_african_republic", "CF"), ("ceuta_&_melilla", "EA"),
   ("chad", "TD"), ("chile", "CL"), ("china", "CN"), ("christmas_island", "CX"),
   ("clipperton_island", "CP"), ("cocos_(keeling)_islands", "CC"), ("colombia", "CO"),
   ("comoros", "KM"), ("congo_-_brazzaville", "CG"), ("congo_-_kinshasa", "CD"),
   ("cook_islands", "CK"), ("costa_rica", "CR"), ("croatia", "HR"), ("cuba", "CU"),
   ("curaçao", "CW"), ("cyprus", "CY"), ("czech_republic", "CZ"), ("czechia", "CZ"),
   ("côte_d’ivoire", "CI"), ("denmark", "DK"), ("diego_garcia", "DG"), ("djibouti", "DJ"),
   ("dominica", "DM"), ("dominican_republic", "DO"), ("ecuador", "EC"), ("egypt", "EG"),
   ("el_salvador", "SV"), ("equatorial_guinea", "GQ"), ("eritrea", "ER"), ("estonia", "EE"),
   ("eswatini", "SZ"), ("ethiopia", "ET"), ("european_union", "EU"), ("falkland_islands", "FK"),
   ("faroe_islands", "FO"), ("fiji", "FJ"), ("finland", "FI"), ("france", "FR"),
   ("french_guiana", "GF"), ("french_polynesia", "PF"), ("french_southern_territories", "TF"),
   ("gabon", "GA"), ("gambia", "GM"), ("georgia", "GE"), ("germany", "DE"), ("ghana", "GH"),
   ("gibraltar", "GI"), ("greece", "GR"), ("greenland", "GL"), ("grenada", "GD"),
   ("guadeloupe", "GP"), ("guam", "GU"), ("guatemala", "GT"), ("guernsey", "GG"), ("guinea", "GN"),
   ("guinea-bissau", "GW"), ("guyana", "GY"), ("haiti", "HT"), ("heard_&_mcdonald_islands", "HM"),
   ("honduras", "HN"), ("hong_kong", "HK"), ("hong_kong_sar_china", "HK"), ("hungary", "HU"),
   ("iceland", "IS"), ("india", "IN"), ("indonesia", "ID"), ("iran", "IR"), ("iraq", "IQ"),
   ("ireland", "IE"), ("isle_of_man", "IM"), ("israel", "IL"), ("italy", "IT"), ("jamaica", "JM"),
   ("japan", "JP"), ("jersey", "JE"), ("jordan", "JO"), ("kazakhstan", "KZ"), ("kenya", "KE"),
   ("kiribati", "KI"), ("kosovo", "XK"), ("kuwait", "KW"), ("kyrgyzstan", "KG"), ("laos", "LA"),
   ("latvia", "LV"), ("lebanon", "LB"), ("lesotho", "LS"), ("liberia", "LR"), ("libya", "LY"),
   ("liechtenstein", "LI"), ("lithuania", "LT"), ("luxembourg", "LU"), ("macao_sar_china", "MO"),
   ("macau", "MO"), ("macau_sar_china", "MO"), ("macedonia", "MK"), ("madagascar", "MG"),
   ("malawi", "MW"), ("malaysia", "MY"), ("maldives", "MV"), ("mali", "ML"), ("malta", "MT"),
   ("marshall_islands", "MH"), ("martinique", "MQ"), ("mauritania", "MR"), ("mauritius", "MU"),
   ("mayotte", "YT"), ("mexico", "MX"), ("micronesia", "FM"), ("moldova", "MD"), ("monaco", "MC"),
   ("mongolia", "MN"), ("montenegro", "ME"), ("montserrat", "MS"), ("morocco", "MA"),
   ("mozambique", "MZ"), ("myanmar", "MM"), ("myanmar_(burma)", "MM"), ("namibia", "NA"),
   ("nauru", "NR"), ("nepal", "NP"), ("netherlands", "NL"), ("new_caledonia", "NC"),
   ("new_zealand", "NZ"), ("nicaragua", "NI"), ("niger", "NE"), ("nigeria", "NG"), ("niue", "NU"),
   ("norfolk_island", "NF"), ("north_korea", "KP"), ("north_macedonia", "MK"),
   ("northern_mariana_islands", "MP"), ("norway", "NO"), ("oman", "OM"), ("pakistan", "PK"),
   ("palau", "PW"), ("palestinian_territories", "PS"), ("panama", "PA"),
   ("papua_new_guinea", "PG"), ("paraguay", "PY"), ("peru", "PE"), ("philippines", "PH"),
   ("pitcairn_islands", "PN"), ("poland", "PL"), ("portugal", "PT"), ("puerto_rico", "PR"),
   ("qatar", "QA"), ("romania", "RO"), ("russia", "RU"), ("rwanda", "RW"), ("réunion", "RE"),
   ("samoa", "WS"), ("san_marino", "SM"), ("saudi_arabia", "SA"), ("senegal", "SN"),
   ("serbia", "RS"), ("seychelles", "SC"), ("sierra_leone", "SL"), ("singapore", "SG"),
   ("sint_maarten", "SX"), ("slovakia", "SK"), ("slovenia", "SI"), ("solomon_islands", "SB"),
   ("somalia", "SO"), ("south_africa", "ZA"), ("south_georgia_&_south_sandwich_islands", "GS"),
   ("south_korea", "KR"), ("south_sudan", "SS"), ("spain", "ES"), ("sri_lanka", "LK"),
   ("st._barthélemy", "BL"), ("st._helena", "SH"), ("st._kitts_&_nevis", "KN"),
   ("st._lucia", "LC"), ("st._martin", "MF"), ("st._pierre_&_miquelon", "PM"),
   ("st._vincent_&_grenadines", "VC"), ("sudan", "SD"), ("suriname", "SR"),
   ("svalbard_&_jan_mayen", "SJ"), ("swaziland", "SZ"), ("sweden", "SE"), ("switzerland", "CH"),
   ("syria", "SY"), ("são_tomé_&_príncipe", "ST"), ("taiwan", "TW"), ("tajikistan", "TJ"),
   ("tanzania", "TZ"), ("thailand", "TH"), ("timor-leste", "TL"), ("togo", "TG"),
   ("tokelau", "TK"), ("tonga", "TO"), ("trinidad_&_tobago", "TT"), ("tristan_da_cunha", "TA"),
   ("tunisia", "TN"), ("turkey", "TR"), ("turkmenistan", "TM"), ("turks_&_caicos_islands", "TC"),
   ("tuvalu", "TV"), ("u.s._outlying_islands", "UM"), ("u.s._virgin_islands", "VI"),
   ("uganda", "UG"), ("ukraine", "UA"), ("united_arab_emirates", "AE"), ("united_kingdom", "GB"),
   ("united_nations", "UN"), ("united_states", "US"), ("uruguay", "UY"), ("uzbekistan", "UZ"),
   ("vanuatu", "VU"), ("vatican_city", "VA"), ("venezuela", "VE"), ("vietnam", "VN"),
   ("wallis_&_futuna", "WF"), ("western_sahara", "EH"), ("yemen", "YE"), ("zambia", "ZM"),
   ("zimbabwe", "ZW"), ("åland_islands", "AX")]

/-- Parts of the United Kingdom by their names, with the letters of their flags. -/
def countryNames : List (String × String) :=
  [("england", "gbeng"), ("scotland", "gbsct"), ("wales", "gbwls")]

/-- The tones of skin, as names end, with the code points for them. -/
def skinTones : List (String × Nat) :=
  [("_light_skin_tone", 0x1f3fb), ("_medium-light_skin_tone", 0x1f3fc),
   ("_medium_skin_tone", 0x1f3fd), ("_medium-dark_skin_tone", 0x1f3fe),
   ("_dark_skin_tone", 0x1f3ff)]

end Console

end Autoscaler
