namespace BlockCode.Text.Emoji

/-- The signs whose names start with `m` or a later letter, like those before them. -/
def signsFromM : List String :=
  ["m=24c2 mag=1f50d mag_right=1f50e mage=1f9d9+ magnet=1f9f2 magnifying_glass_tilted_left=1f50d",
    "magnifying_glass_tilted_right=1f50e mahjong=1f004 mahjong_red_dragon=1f004 mailbox=1f4eb",
    "mailbox_closed=1f4ea mailbox_with_mail=1f4ec mailbox_with_no_mail=1f4ed male_sign=2642",
    "man=1f468+ man_and_woman_holding_hands=1f46b man_artist=1f468-200d-1f3a8+",
    "man_astronaut=1f468-200d-1f680+ man_biking=1f6b4-200d-2642-fe0f+",
    "man_bouncing_ball=26f9-fe0f-200d-2642-fe0f+ man_bowing=1f647-200d-2642-fe0f+",
    "man_cartwheeling=1f938-200d-2642-fe0f+ man_climbing=1f9d7-200d-2642-fe0f+",
    "man_construction_worker=1f477-200d-2642-fe0f+ man_cook=1f468-200d-1f373+ man_dancing=1f57a+",
    "man_detective=1f575-fe0f-200d-2642-fe0f+ man_elf=1f9dd-200d-2642-fe0f+",
    "man_facepalming=1f926-200d-2642-fe0f+ man_factory_worker=1f468-200d-1f3ed+",
    "man_fairy=1f9da-200d-2642-fe0f+ man_farmer=1f468-200d-1f33e+",
    "man_firefighter=1f468-200d-1f692+ man_frowning=1f64d-200d-2642-fe0f+",
    "man_genie=1f9de-200d-2642-fe0f man_gesturing_no=1f645-200d-2642-fe0f+",
    "man_gesturing_ok=1f646-200d-2642-fe0f+ man_getting_haircut=1f487-200d-2642-fe0f+",
    "man_getting_massage=1f486-200d-2642-fe0f+ man_golfing=1f3cc-fe0f-200d-2642-fe0f+",
    "man_guard=1f482-200d-2642-fe0f+ man_health_worker=1f468-200d-2695-fe0f+",
    "man_in_business_suit_levitating=1f574 man_in_lotus_position=1f9d8-200d-2642-fe0f+",
    "man_in_manual_wheelchair=1f468-200d-1f9bd man_in_motorized_wheelchair=1f468-200d-1f9bc",
    "man_in_steamy_room=1f9d6-200d-2642-fe0f+ man_in_suit_levitating=1f574+ man_in_tuxedo=1f935+",
    "man_judge=1f468-200d-2696-fe0f+ man_juggling=1f939-200d-2642-fe0f+",
    "man_lifting_weights=1f3cb-fe0f-200d-2642-fe0f+ man_mage=1f9d9-200d-2642-fe0f+",
    "man_mechanic=1f468-200d-1f527+ man_mountain_biking=1f6b5-200d-2642-fe0f+",
    "man_office_worker=1f468-200d-1f4bc+ man_pilot=1f468-200d-2708-fe0f+",
    "man_playing_handball=1f93e-200d-2642-fe0f+ man_playing_water_polo=1f93d-200d-2642-fe0f+",
    "man_police_officer=1f46e-200d-2642-fe0f+ man_pouting=1f64e-200d-2642-fe0f+",
    "man_raising_hand=1f64b-200d-2642-fe0f+ man_rowing_boat=1f6a3-200d-2642-fe0f+",
    "man_running=1f3c3-200d-2642-fe0f+ man_scientist=1f468-200d-1f52c+",
    "man_shrugging=1f937-200d-2642-fe0f+ man_singer=1f468-200d-1f3a4+",
    "man_student=1f468-200d-1f393+ man_surfing=1f3c4-200d-2642-fe0f+",
    "man_swimming=1f3ca-200d-2642-fe0f+ man_teacher=1f468-200d-1f3eb+",
    "man_technologist=1f468-200d-1f4bb+ man_tipping_hand=1f481-200d-2642-fe0f+",
    "man_vampire=1f9db-200d-2642-fe0f+ man_walking=1f6b6-200d-2642-fe0f+",
    "man_wearing_turban=1f473-200d-2642-fe0f+ man_with_chinese_cap=1f472+",
    "man_with_gua_pi_mao=1f472 man_with_probing_cane=1f468-200d-1f9af man_with_turban=1f473",
    "man_zombie=1f9df-200d-2642-fe0f mango=1f96d mans_shoe=1f45e mantelpiece_clock=1f570",
    "manual_wheelchair=1f9bd man’s_shoe=1f45e map_of_japan=1f5fe maple_leaf=1f341",
    "martial_arts_uniform=1f94b mask=1f637 massage=1f486 mate=1f9c9 meat_on_bone=1f356",
    "mechanical_arm=1f9be mechanical_leg=1f9bf medical_symbol=2695 medium_dark_skin_tone=1f3fe",
    "medium_light_skin_tone=1f3fc medium_skin_tone=1f3fd mega=1f4e3 megaphone=1f4e3 melon=1f348",
    "memo=1f4dd men_with_bunny_ears=1f46f-200d-2642-fe0f men_wrestling=1f93c-200d-2642-fe0f",
    "menorah=1f54e menorah_with_nine_branches=1f54e mens=1f6b9 men’s_room=1f6b9",
    "mermaid=1f9dc-200d-2640-fe0f+ merman=1f9dc-200d-2642-fe0f+ merperson=1f9dc+ metro=1f687",
    "microbe=1f9a0 microphone=1f3a4 microscope=1f52c middle_finger=1f595+ military_medal=1f396",
    "milky_way=1f30c minibus=1f690 minidisc=1f4bd moai=1f5ff mobile_phone=1f4f1",
    "mobile_phone_off=1f4f4 mobile_phone_with_arrow=1f4f2 money-mouth_face=1f911",
    "money__mouth_face=1f911 money_bag=1f4b0 money_with_wings=1f4b8 moneybag=1f4b0 monkey=1f412",
    "monkey_face=1f435 monorail=1f69d moon=1f314 moon_cake=1f96e moon_viewing_ceremony=1f391",
    "mortar_board=1f393 mosque=1f54c mosquito=1f99f motor_boat=1f6e5 motor_scooter=1f6f5",
    "motorcycle=1f3cd motorized_wheelchair=1f9bc motorway=1f6e3 mount_fuji=1f5fb mountain=26f0",
    "mountain_bicyclist=1f6b5 mountain_cableway=1f6a0 mountain_railway=1f69e mouse=1f42d",
    "mouse2=1f401 mouse_face=1f42d mouth=1f444 movie_camera=1f3a5 moyai=1f5ff mrs._claus=1f936+",
    "muscle=1f4aa mushroom=1f344 musical_keyboard=1f3b9 musical_note=1f3b5 musical_notes=1f3b6",
    "musical_score=1f3bc mute=1f507 muted_speaker=1f507 nail_care=1f485 nail_polish=1f485+",
    "name_badge=1f4db national_park=1f3de nauseated_face=1f922 nazar_amulet=1f9ff necktie=1f454",
    "negative_squared_cross_mark=274e nerd_face=1f913 neutral_face=1f610 new=1f195",
    "new_button=1f195 new_moon=1f311 new_moon_face=1f31a new_moon_with_face=1f31a newspaper=1f4f0",
    "next_track_button=23ed ng=1f196 ng_button=1f196 night_with_stars=1f303 nine=39-fe0f-20e3",
    "nine-thirty=1f564 nine_o’clock=1f558 no_bell=1f515 no_bicycles=1f6b3 no_entry=26d4",
    "no_entry_sign=1f6ab no_good=1f645 no_littering=1f6af no_mobile_phones=1f4f5 no_mouth=1f636",
    "no_one_under_eighteen=1f51e no_pedestrians=1f6b7 no_smoking=1f6ad non-potable_water=1f6b1",
    "non__potable_water=1f6b1 nose=1f443+ notebook=1f4d3 notebook_with_decorative_cover=1f4d4",
    "notes=1f3b6 nut_and_bolt=1f529 o=2b55 o2=1f17e o_button_(blood_type)=1f17e ocean=1f30a",
    "octopus=1f419 oden=1f362 office=1f3e2 office_building=1f3e2 ogre=1f479 oil_drum=1f6e2",
    "ok=1f197 ok_button=1f197 ok_hand=1f44c+ ok_woman=1f646 old_key=1f5dd old_man=1f474+",
    "old_woman=1f475+ older_adult=1f9d3+ older_man=1f474 older_woman=1f475 om=1f549",
    "om_symbol=1f549 on=1f51b on!_arrow=1f51b oncoming_automobile=1f698 oncoming_bus=1f68d",
    "oncoming_fist=1f44a+ oncoming_police_car=1f694 oncoming_taxi=1f696 one=31-fe0f-20e3",
    "one-piece_swimsuit=1fa71 one-thirty=1f55c one_o’clock=1f550 onion=1f9c5 open_book=1f4d6",
    "open_file_folder=1f4c2 open_hands=1f450+ open_mailbox_with_lowered_flag=1f4ed",
    "open_mailbox_with_raised_flag=1f4ec open_mouth=1f62e ophiuchus=26ce optical_disk=1f4bf",
    "orange_book=1f4d9 orange_circle=1f7e0 orange_heart=1f9e1 orange_square=1f7e7 orangutan=1f9a7",
    "orthodox_cross=2626 otter=1f9a6 outbox_tray=1f4e4 owl=1f989 ox=1f402 oyster=1f9aa",
    "p_button=1f17f package=1f4e6 page_facing_up=1f4c4 page_with_curl=1f4c3 pager=1f4df",
    "paintbrush=1f58c palm_tree=1f334 palms_up_together=1f932+ pancakes=1f95e panda_face=1f43c",
    "paperclip=1f4ce parking=1f17f parrot=1f99c part_alternation_mark=303d partly_sunny=26c5",
    "party_popper=1f389 partying_face=1f973 passenger_ship=1f6f3 passport_control=1f6c2",
    "pause_button=23f8 paw_prints=1f43e peace_symbol=262e peach=1f351 peacock=1f99a peanuts=1f95c",
    "pear=1f350 pen=1f58a pencil=1f4dd pencil2=270f penguin=1f427 pensive=1f614",
    "pensive_face=1f614 people_holding_hands=1f9d1-200d-1f91d-200d-1f9d1",
    "people_with_bunny_ears=1f46f people_wrestling=1f93c performing_arts=1f3ad persevere=1f623",
    "persevering_face=1f623 person_biking=1f6b4+ person_bouncing_ball=26f9+ person_bowing=1f647+",
    "person_cartwheeling=1f938+ person_climbing=1f9d7+ person_facepalming=1f926+",
    "person_fencing=1f93a person_frowning=1f64d+ person_gesturing_no=1f645+",
    "person_gesturing_ok=1f646+ person_getting_haircut=1f487+ person_getting_massage=1f486+",
    "person_golfing=1f3cc+ person_in_bed=1f6cc+ person_in_lotus_position=1f9d8+",
    "person_in_steamy_room=1f9d6+ person_juggling=1f939+ person_kneeling=1f9ce",
    "person_lifting_weights=1f3cb+ person_mountain_biking=1f6b5+ person_playing_handball=1f93e+",
    "person_playing_water_polo=1f93d+ person_pouting=1f64e+ person_raising_hand=1f64b+",
    "person_rowing_boat=1f6a3+ person_running=1f3c3+ person_shrugging=1f937+",
    "person_standing=1f9cd person_surfing=1f3c4+ person_swimming=1f3ca+ person_taking_bath=1f6c0+",
    "person_tipping_hand=1f481+ person_walking=1f6b6+ person_wearing_turban=1f473+",
    "person_with_ball=26f9 person_with_blond_hair=1f471 person_with_pouting_face=1f64e",
    "petri_dish=1f9eb phone=260e pick=26cf pie=1f967 pig=1f437 pig2=1f416 pig_face=1f437",
    "pig_nose=1f43d pile_of_poo=1f4a9 pill=1f48a pinching_hand=1f90f pine_decoration=1f38d",
    "pineapple=1f34d ping_pong=1f3d3 pirate_flag=1f3f4-200d-2620-fe0f pisces=2653 pistol=1f52b",
    "pizza=1f355 place_of_worship=1f6d0 play_button=25b6 play_or_pause_button=23ef",
    "pleading_face=1f97a point_down=1f447 point_left=1f448 point_right=1f449 point_up=261d",
    "point_up_2=1f446 police_car=1f693 police_car_light=1f6a8 police_officer=1f46e+ poodle=1f429",
    "pool_8_ball=1f3b1 poop=1f4a9 popcorn=1f37f post_office=1f3e3 postal_horn=1f4ef postbox=1f4ee",
    "pot_of_food=1f372 potable_water=1f6b0 potato=1f954 pouch=1f45d poultry_leg=1f357 pound=1f4b7",
    "pound_banknote=1f4b7 pouting_cat=1f63e pouting_cat_face=1f63e pouting_face=1f621 pray=1f64f",
    "prayer_beads=1f4ff pregnant_woman=1f930+ pretzel=1f968 prince=1f934+ princess=1f478+",
    "printer=1f5a8 probing_cane=1f9af prohibited=1f6ab punch=1f44a purple_circle=1f7e3",
    "purple_heart=1f49c purple_square=1f7ea purse=1f45b pushpin=1f4cc",
    "put_litter_in_its_place=1f6ae question=2753 question_mark=2753 rabbit=1f430 rabbit2=1f407",
    "rabbit_face=1f430 raccoon=1f99d racehorse=1f40e racing_car=1f3ce racing_motorcycle=1f3cd",
    "radio=1f4fb radio_button=1f518 radioactive=2622 radioactive_sign=2622 rage=1f621",
    "railway_car=1f683 railway_track=1f6e4 rainbow=1f308 rainbow_flag=1f3f3-fe0f-200d-1f308",
    "raised_back_of_hand=1f91a+ raised_fist=270a+ raised_hand=270b+",
    "raised_hand_with_fingers_splayed=1f590",
    "raised_hand_with_part_between_middle_and_ring_fingers=1f596 raised_hands=1f64c",
    "raising_hand=1f64b raising_hands=1f64c+ ram=1f40f ramen=1f35c rat=1f400 razor=1fa92",
    "receipt=1f9fe record_button=23fa recycle=267b recycling_symbol=267b",
    "red-haired_man=1f468-200d-1f9b0 red-haired_woman=1f469-200d-1f9b0 red_apple=1f34e",
    "red_car=1f697 red_circle=1f534 red_envelope=1f9e7 red_hair=1f9b0 red_heart=2764",
    "red_paper_lantern=1f3ee red_square=1f7e5 red_triangle_pointed_down=1f53b",
    "red_triangle_pointed_up=1f53a regional_indicator_a=1f1e6 regional_indicator_b=1f1e7",
    "regional_indicator_c=1f1e8 regional_indicator_d=1f1e9 regional_indicator_e=1f1ea",
    "regional_indicator_f=1f1eb regional_indicator_g=1f1ec regional_indicator_h=1f1ed",
    "regional_indicator_i=1f1ee regional_indicator_j=1f1ef regional_indicator_k=1f1f0",
    "regional_indicator_l=1f1f1 regional_indicator_m=1f1f2 regional_indicator_n=1f1f3",
    "regional_indicator_o=1f1f4 regional_indicator_p=1f1f5 regional_indicator_q=1f1f6",
    "regional_indicator_r=1f1f7 regional_indicator_s=1f1f8",
    "regional_indicator_symbol_letter_a=1f1e6 regional_indicator_symbol_letter_b=1f1e7",
    "regional_indicator_symbol_letter_c=1f1e8 regional_indicator_symbol_letter_d=1f1e9",
    "regional_indicator_symbol_letter_e=1f1ea regional_indicator_symbol_letter_f=1f1eb",
    "regional_indicator_symbol_letter_g=1f1ec regional_indicator_symbol_letter_h=1f1ed",
    "regional_indicator_symbol_letter_i=1f1ee regional_indicator_symbol_letter_j=1f1ef",
    "regional_indicator_symbol_letter_k=1f1f0 regional_indicator_symbol_letter_l=1f1f1",
    "regional_indicator_symbol_letter_m=1f1f2 regional_indicator_symbol_letter_n=1f1f3",
    "regional_indicator_symbol_letter_o=1f1f4 regional_indicator_symbol_letter_p=1f1f5",
    "regional_indicator_symbol_letter_q=1f1f6 regional_indicator_symbol_letter_r=1f1f7",
    "regional_indicator_symbol_letter_s=1f1f8 regional_indicator_symbol_letter_t=1f1f9",
    "regional_indicator_symbol_letter_u=1f1fa regional_indicator_symbol_letter_v=1f1fb",
    "regional_indicator_symbol_letter_w=1f1fc regional_indicator_symbol_letter_x=1f1fd",
    "regional_indicator_symbol_letter_y=1f1fe regional_indicator_symbol_letter_z=1f1ff",
    "regional_indicator_t=1f1f9 regional_indicator_u=1f1fa regional_indicator_v=1f1fb",
    "regional_indicator_w=1f1fc regional_indicator_x=1f1fd regional_indicator_y=1f1fe",
    "regional_indicator_z=1f1ff registered=ae relaxed=263a relieved=1f60c relieved_face=1f60c",
    "reminder_ribbon=1f397 repeat=1f501 repeat_button=1f501 repeat_one=1f502",
    "repeat_single_button=1f502 rescue_worker’s_helmet=26d1 restroom=1f6bb reverse_button=25c0",
    "reversed_hand_with_middle_finger_extended=1f595 revolving_hearts=1f49e rewind=23ea",
    "rhinoceros=1f98f ribbon=1f380 rice=1f35a rice_ball=1f359 rice_cracker=1f358 rice_scene=1f391",
    "right-facing_fist=1f91c+ right_anger_bubble=1f5ef right_arrow=27a1",
    "right_arrow_curving_down=2935 right_arrow_curving_left=21a9 right_arrow_curving_up=2934",
    "ring=1f48d ringed_planet=1fa90 roasted_sweet_potato=1f360 robot=1f916 robot_face=1f916",
    "rocket=1f680 roll_of_paper=1f9fb rolled-up_newspaper=1f5de rolled__up_newspaper=1f5de",
    "roller_coaster=1f3a2 rolling_on_the_floor_laughing=1f923 rooster=1f413 rose=1f339",
    "rosette=1f3f5 rotating_light=1f6a8 round_pushpin=1f4cd rowboat=1f6a3 rugby_football=1f3c9",
    "runner=1f3c3 running=1f3c3 running_shirt=1f3bd running_shirt_with_sash=1f3bd",
    "running_shoe=1f45f sa=1f202 sad_but_relieved_face=1f625 safety_pin=1f9f7 safety_vest=1f9ba",
    "sagittarius=2650 sailboat=26f5 sake=1f376 salt=1f9c2 sandal=1f461 sandwich=1f96a santa=1f385",
    "santa_claus=1f385+ sari=1f97b satellite=1f4e1 satellite_antenna=1f4e1 satisfied=1f606",
    "sauropod=1f995 saxophone=1f3b7 scales=2696 scarf=1f9e3 school=1f3eb school_backpack=1f392",
    "school_satchel=1f392 scissors=2702 scorpio=264f scorpion=1f982 scorpius=264f",
    "scotland=1f3f4-e0067-e0062-e0073-e0063-e0074-e007f scream=1f631 scream_cat=1f640",
    "scroll=1f4dc seat=1f4ba secret=3299 see-no-evil_monkey=1f648 see_no_evil=1f648",
    "seedling=1f331 selfie=1f933+ service_dog=1f415-200d-1f9ba seven=37-fe0f-20e3",
    "seven-thirty=1f562 seven_o’clock=1f556 shallow_pan_of_food=1f958 shamrock=2618 shark=1f988",
    "shaved_ice=1f367 sheaf_of_rice=1f33e sheep=1f411 shell=1f41a shield=1f6e1 shinto_shrine=26e9",
    "ship=1f6a2 shirt=1f455 shit=1f4a9 shoe=1f45e shooting_star=1f320 shopping_bags=1f6cd",
    "shopping_cart=1f6d2 shortcake=1f370 shorts=1fa73 shower=1f6bf shrimp=1f990",
    "shuffle_tracks_button=1f500 shushing_face=1f92b sign_of_the_horns=1f918+",
    "signal_strength=1f4f6 six=36-fe0f-20e3 six-thirty=1f561 six_o’clock=1f555",
    "six_pointed_star=1f52f skateboard=1f6f9 ski=1f3bf skier=26f7 skis=1f3bf skull=1f480",
    "skull_and_crossbones=2620 skunk=1f9a8 sled=1f6f7 sleeping=1f634 sleeping_accommodation=1f6cc",
    "sleeping_face=1f634 sleepy=1f62a sleepy_face=1f62a sleuth_or_spy=1f575",
    "slightly_frowning_face=1f641 slightly_smiling_face=1f642 slot_machine=1f3b0 sloth=1f9a5",
    "small_airplane=1f6e9 small_blue_diamond=1f539 small_orange_diamond=1f538",
    "small_red_triangle=1f53a small_red_triangle_down=1f53b smile=1f604 smile_cat=1f638",
    "smiley=1f603 smiley_cat=1f63a smiling_cat_face_with_heart-eyes=1f63b smiling_face=263a",
    "smiling_face_with_3_hearts=1f970 smiling_face_with_halo=1f607",
    "smiling_face_with_heart-eyes=1f60d smiling_face_with_horns=1f608",
    "smiling_face_with_smiling_eyes=1f60a smiling_face_with_sunglasses=1f60e smiling_imp=1f608",
    "smirk=1f60f smirk_cat=1f63c smirking_face=1f60f smoking=1f6ac snail=1f40c snake=1f40d",
    "sneezing_face=1f927 snow-capped_mountain=1f3d4 snow_capped_mountain=1f3d4 snowboarder=1f3c2+",
    "snowflake=2744 snowman=2603 snowman_without_snow=26c4 soap=1f9fc sob=1f62d soccer=26bd",
    "soccer_ball=26bd socks=1f9e6 soft_ice_cream=1f366 softball=1f94e soon=1f51c soon_arrow=1f51c",
    "sos=1f198 sos_button=1f198 sound=1f509 space_invader=1f47e spade_suit=2660 spades=2660",
    "spaghetti=1f35d sparkle=2747 sparkler=1f387 sparkles=2728 sparkling_heart=1f496",
    "speak-no-evil_monkey=1f64a speak_no_evil=1f64a speaker=1f508 speaker_high_volume=1f50a",
    "speaker_low_volume=1f508 speaker_medium_volume=1f509 speaking_head=1f5e3",
    "speaking_head_in_silhouette=1f5e3 speech_balloon=1f4ac speedboat=1f6a4 spider=1f577",
    "spider_web=1f578 spiral_calendar=1f5d3 spiral_calendar_pad=1f5d3 spiral_note_pad=1f5d2",
    "spiral_notepad=1f5d2 spiral_shell=1f41a sponge=1f9fd spoon=1f944 sport_utility_vehicle=1f699",
    "sports_medal=1f3c5 spouting_whale=1f433 squid=1f991 squinting_face_with_tongue=1f61d",
    "stadium=1f3df star=2b50 star-struck=1f929 star2=1f31f star_and_crescent=262a",
    "star_of_david=2721 stars=1f320 station=1f689 statue_of_liberty=1f5fd steam_locomotive=1f682",
    "steaming_bowl=1f35c stethoscope=1fa7a stew=1f372 stop_button=23f9 stop_sign=1f6d1",
    "stopwatch=23f1 straight_ruler=1f4cf strawberry=1f353 stuck_out_tongue=1f61b",
    "stuck_out_tongue_closed_eyes=1f61d stuck_out_tongue_winking_eye=1f61c",
    "studio_microphone=1f399 stuffed_flatbread=1f959 sun=2600 sun_behind_cloud=26c5",
    "sun_behind_large_cloud=1f325 sun_behind_rain_cloud=1f326 sun_behind_small_cloud=1f324",
    "sun_with_face=1f31e sunflower=1f33b sunglasses=1f60e sunny=2600 sunrise=1f305",
    "sunrise_over_mountains=1f304 sunset=1f307 superhero=1f9b8 supervillain=1f9b9 surfer=1f3c4",
    "sushi=1f363 suspension_railway=1f69f swan=1f9a2 sweat=1f613 sweat_droplets=1f4a6",
    "sweat_drops=1f4a6 sweat_smile=1f605 sweet_potato=1f360 swimmer=1f3ca symbols=1f523",
    "synagogue=1f54d syringe=1f489 t-rex=1f996 t-shirt=1f455 table_tennis_paddle_and_ball=1f3d3",
    "taco=1f32e tada=1f389 takeout_box=1f961 tanabata_tree=1f38b tangerine=1f34a taurus=2649",
    "taxi=1f695 tea=1f375 teacup_without_handle=1f375 tear-off_calendar=1f4c6 teddy_bear=1f9f8",
    "telephone=260e telephone_receiver=1f4de telescope=1f52d television=1f4fa ten=1f51f",
    "ten-thirty=1f565 ten_o’clock=1f559 tennis=1f3be tent=26fa test_tube=1f9ea thermometer=1f321",
    "thinking_face=1f914 thought_balloon=1f4ad thread=1f9f5 three=33-fe0f-20e3 three-thirty=1f55e",
    "three_button_mouse=1f5b1 three_o’clock=1f552 thumbs_down=1f44e+ thumbs_up=1f44d+",
    "thumbsdown=1f44e thumbsup=1f44d thunder_cloud_and_rain=26c8 ticket=1f3ab tiger=1f42f",
    "tiger2=1f405 tiger_face=1f42f timer_clock=23f2 tired_face=1f62b tm=2122 toilet=1f6bd",
    "tokyo_tower=1f5fc tomato=1f345 tongue=1f445 toolbox=1f9f0 tooth=1f9b7 top=1f51d",
    "top_arrow=1f51d top_hat=1f3a9 tophat=1f3a9 tornado=1f32a trackball=1f5b2 tractor=1f69c",
    "trade_mark=2122 traffic_light=1f6a5 train=1f68b train2=1f686 tram=1f68a tram_car=1f68b",
    "triangular_flag=1f6a9 triangular_flag_on_post=1f6a9 triangular_ruler=1f4d0 trident=1f531",
    "trident_emblem=1f531 triumph=1f624 trolleybus=1f68e trophy=1f3c6 tropical_drink=1f379",
    "tropical_fish=1f420 truck=1f69a trumpet=1f3ba tshirt=1f455 tulip=1f337 tumbler_glass=1f943",
    "turkey=1f983 turtle=1f422 tv=1f4fa twelve-thirty=1f567 twelve_o’clock=1f55b",
    "twisted_rightwards_arrows=1f500 two=32-fe0f-20e3 two-hump_camel=1f42b two-thirty=1f55d",
    "two_hearts=1f495 two_men_holding_hands=1f46c two_o’clock=1f551 two_women_holding_hands=1f46d",
    "u5272=1f239 u5408=1f234 u55b6=1f23a u6307=1f22f u6708=1f237 u6709=1f236 u6e80=1f235",
    "u7121=1f21a u7533=1f238 u7981=1f232 u7a7a=1f233 umbrella=2602 umbrella_on_ground=26f1",
    "umbrella_with_rain_drops=2614 unamused=1f612 unamused_face=1f612 underage=1f51e",
    "unicorn_face=1f984 unlock=1f513 unlocked=1f513 up=1f199 up!_button=1f199 up-down_arrow=2195",
    "up-left_arrow=2196 up-right_arrow=2197 up_arrow=2b06 upside-down_face=1f643",
    "upside__down_face=1f643 upwards_button=1f53c v=270c vampire=1f9db+",
    "vertical_traffic_light=1f6a6 vhs=1f4fc vibration_mode=1f4f3 victory_hand=270c+",
    "video_camera=1f4f9 video_game=1f3ae videocassette=1f4fc violin=1f3bb virgo=264d",
    "volcano=1f30b volleyball=1f3d0 vs=1f19a vs_button=1f19a vulcan_salute=1f596+ waffle=1f9c7",
    "wales=1f3f4-e0067-e0062-e0077-e006c-e0073-e007f walking=1f6b6 waning_crescent_moon=1f318",
    "waning_gibbous_moon=1f316 warning=26a0 wastebasket=1f5d1 watch=231a water_buffalo=1f403",
    "water_closet=1f6be water_wave=1f30a watermelon=1f349 wave=1f44b waving_black_flag=1f3f4",
    "waving_hand=1f44b+ waving_white_flag=1f3f3 wavy_dash=3030 waxing_crescent_moon=1f312",
    "waxing_gibbous_moon=1f314 wc=1f6be weary=1f629 weary_cat_face=1f640 weary_face=1f629",
    "wedding=1f492 weight_lifter=1f3cb whale=1f433 whale2=1f40b wheel_of_dharma=2638",
    "wheelchair=267f wheelchair_symbol=267f white-haired_man=1f468-200d-1f9b3",
    "white-haired_woman=1f469-200d-1f9b3 white_check_mark=2705 white_circle=26aa",
    "white_exclamation_mark=2755 white_flag=1f3f3 white_flower=1f4ae white_frowning_face=2639",
    "white_hair=1f9b3 white_heart=1f90d white_heavy_check_mark=2705 white_large_square=2b1c",
    "white_medium-small_square=25fd white_medium_small_square=25fd white_medium_square=25fb",
    "white_medium_star=2b50 white_question_mark=2754 white_small_square=25ab",
    "white_square_button=1f533 white_sun_behind_cloud=1f325",
    "white_sun_behind_cloud_with_rain=1f326 white_sun_with_small_cloud=1f324 wilted_flower=1f940",
    "wind_blowing_face=1f32c wind_chime=1f390 wind_face=1f32c wine_glass=1f377 wink=1f609",
    "winking_face=1f609 winking_face_with_tongue=1f61c wolf=1f43a wolf_face=1f43a woman=1f469+",
    "woman_artist=1f469-200d-1f3a8+ woman_astronaut=1f469-200d-1f680+",
    "woman_biking=1f6b4-200d-2640-fe0f+ woman_bouncing_ball=26f9-fe0f-200d-2640-fe0f+",
    "woman_bowing=1f647-200d-2640-fe0f+ woman_cartwheeling=1f938-200d-2640-fe0f+",
    "woman_climbing=1f9d7-200d-2640-fe0f+ woman_construction_worker=1f477-200d-2640-fe0f+",
    "woman_cook=1f469-200d-1f373+ woman_dancing=1f483+ woman_detective=1f575-fe0f-200d-2640-fe0f+",
    "woman_elf=1f9dd-200d-2640-fe0f+ woman_facepalming=1f926-200d-2640-fe0f+",
    "woman_factory_worker=1f469-200d-1f3ed+ woman_fairy=1f9da-200d-2640-fe0f+",
    "woman_farmer=1f469-200d-1f33e+ woman_firefighter=1f469-200d-1f692+",
    "woman_frowning=1f64d-200d-2640-fe0f+ woman_genie=1f9de-200d-2640-fe0f",
    "woman_gesturing_no=1f645-200d-2640-fe0f+ woman_gesturing_ok=1f646-200d-2640-fe0f+",
    "woman_getting_haircut=1f487-200d-2640-fe0f+ woman_getting_massage=1f486-200d-2640-fe0f+",
    "woman_golfing=1f3cc-fe0f-200d-2640-fe0f+ woman_guard=1f482-200d-2640-fe0f+",
    "woman_health_worker=1f469-200d-2695-fe0f+ woman_in_lotus_position=1f9d8-200d-2640-fe0f+",
    "woman_in_manual_wheelchair=1f469-200d-1f9bd woman_in_motorized_wheelchair=1f469-200d-1f9bc",
    "woman_in_steamy_room=1f9d6-200d-2640-fe0f+ woman_judge=1f469-200d-2696-fe0f+",
    "woman_juggling=1f939-200d-2640-fe0f+ woman_lifting_weights=1f3cb-fe0f-200d-2640-fe0f+",
    "woman_mage=1f9d9-200d-2640-fe0f+ woman_mechanic=1f469-200d-1f527+",
    "woman_mountain_biking=1f6b5-200d-2640-fe0f+ woman_office_worker=1f469-200d-1f4bc+",
    "woman_pilot=1f469-200d-2708-fe0f+ woman_playing_handball=1f93e-200d-2640-fe0f+",
    "woman_playing_water_polo=1f93d-200d-2640-fe0f+ woman_police_officer=1f46e-200d-2640-fe0f+",
    "woman_pouting=1f64e-200d-2640-fe0f+ woman_raising_hand=1f64b-200d-2640-fe0f+",
    "woman_rowing_boat=1f6a3-200d-2640-fe0f+ woman_running=1f3c3-200d-2640-fe0f+",
    "woman_scientist=1f469-200d-1f52c+ woman_shrugging=1f937-200d-2640-fe0f+",
    "woman_singer=1f469-200d-1f3a4+ woman_student=1f469-200d-1f393+",
    "woman_surfing=1f3c4-200d-2640-fe0f+ woman_swimming=1f3ca-200d-2640-fe0f+",
    "woman_teacher=1f469-200d-1f3eb+ woman_technologist=1f469-200d-1f4bb+",
    "woman_tipping_hand=1f481-200d-2640-fe0f+ woman_vampire=1f9db-200d-2640-fe0f+",
    "woman_walking=1f6b6-200d-2640-fe0f+ woman_wearing_turban=1f473-200d-2640-fe0f+",
    "woman_with_headscarf=1f9d5+ woman_with_probing_cane=1f469-200d-1f9af",
    "woman_zombie=1f9df-200d-2640-fe0f womans_clothes=1f45a womans_hat=1f452 woman’s_boot=1f462",
    "woman’s_clothes=1f45a woman’s_hat=1f452 woman’s_sandal=1f461",
    "women_with_bunny_ears=1f46f-200d-2640-fe0f women_wrestling=1f93c-200d-2640-fe0f womens=1f6ba",
    "women’s_room=1f6ba woozy_face=1f974 world_map=1f5fa worried=1f61f worried_face=1f61f",
    "wrapped_gift=1f381 wrench=1f527 writing_hand=270d+ x=274c yarn=1f9f6 yawning_face=1f971",
    "yellow_circle=1f7e1 yellow_heart=1f49b yellow_square=1f7e8 yen=1f4b4 yen_banknote=1f4b4",
    "yin_yang=262f yo-yo=1fa80 yum=1f60b zany_face=1f92a zap=26a1 zebra=1f993 zero=30-fe0f-20e3",
    "zipper-mouth_face=1f910 zipper__mouth_face=1f910 zombie=1f9df zzz=1f4a4"]

end BlockCode.Text.Emoji
